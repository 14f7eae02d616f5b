import BearerAuth.Proofs.Oidc.Connection

/-!
# Issuers

There are three issuers: the one that a relying party is set up for, the one that the document of
its provider names, and the one that a token names.  The first and the last are the same in every
token that is accepted.  Of the document it is only asked that it names an issuer, so its issuer is
that of the accepted tokens just if it happens to be the one that was set up (`issuer_of_connect`).
-/

namespace BearerAuth.OidcAuthenticator

open Network.Host (plainNames)

variable {names : Network.Names} {pages : Network.Pages} {o : OidcOptions} {a : OidcAuthenticator}

/-- A token that is accepted names issuer and audience of the options. -/
theorem parties_of_authenticateToken {now : Instant} {token : String} {c : Claims}
    (h : a.authenticateToken now token = .ok c) :
    c.issuer = some a.options.issuerUrl ∧ a.options.audience ∈ c.audience := by
  rw [authenticateToken_eq] at h
  obtain ⟨d, -, hd⟩ := Except.bind_eq_ok_iff.mp h
  rw [checkParties] at hd
  split at hd
  · cases hd
  · next hissuer =>
    split at hd
    · cases hd
    · next haudience =>
      cases hd
      exact ⟨not_not.mp hissuer, not_not.mp haudience⟩

/-- A relying party that connects goes by its options and by the document that was served, which
names an issuer.  The tokens that it accepts name that issuer just if it is the one of the
options. -/
theorem issuer_of_connect (h : connect names pages o = .ok a) :
    a.options = o ∧ Oidc.document? names pages o.issuerUrl = some a.provider ∧
      a.provider.issuer ≠ "" ∧
      ∀ now token c, a.authenticateToken now token = .ok c → c.issuer = some o.issuerUrl ∧
        (c.issuer = some a.provider.issuer ↔ a.provider.issuer = o.issuerUrl) := by
  obtain ⟨provider, held, b, hprovider, -, hb, rfl⟩ := connect_eq_ok_iff.mp h
  obtain ⟨window, -, rfl⟩ := ofParts_eq_ok hb
  obtain ⟨hdocument, hissuer, -⟩ := Oidc.document?_of_discover hprovider
  refine ⟨rfl, hdocument, hissuer, fun now token c hc ↦ ?_⟩
  have hnamed : c.issuer = some o.issuerUrl := (parties_of_authenticateToken hc).1
  refine ⟨hnamed, ?_⟩
  rw [hnamed, Option.some.injEq, eq_comm]

/-! ## A provider under two names -/

/-- If the document names the issuer of the options, so does the token. -/
theorem issuer_of_connect_same :
    connect plainNames (announcing "http://id.example") announcedOptions =
        .ok (announced "http://id.example") ∧
      announcedClaims.issuer = some (announced "http://id.example").provider.issuer := by
  have hconnect := connect_announcing (show "http://id.example" ≠ "" by decide)
  obtain ⟨-, -, -, haccepted⟩ := issuer_of_connect hconnect
  exact ⟨hconnect, (haccepted _ _ _ (authenticateToken_announced _)).2.mpr rfl⟩

/-- If the document names the issuer with a slash at its end the relying party connects all the
same, and the issuer of a token that it accepts is not the one that the document names. -/
theorem connect_other_issuer :
    connect plainNames (announcing "http://id.example/") announcedOptions =
        .ok (announced "http://id.example/") ∧
      (announced "http://id.example/").provider.issuer ≠ announcedOptions.issuerUrl ∧
      (announced "http://id.example/").authenticateToken .epoch announcedToken =
        .ok announcedClaims ∧
      announcedClaims.issuer ≠ some (announced "http://id.example/").provider.issuer := by
  refine ⟨connect_announcing (by decide), ?_, authenticateToken_announced _, ?_⟩
  · decide
  · decide

end BearerAuth.OidcAuthenticator
