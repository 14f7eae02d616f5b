import BearerAuth.CommandLine.Run
import BearerAuth.Proofs.Claims.Dates
import BearerAuth.Proofs.Token.Signing
import BearerAuth.Proofs.Trust

/-!
# Tokens with a lifetime

The program issues a token that ends some seconds from now.  Three ranges are involved: any number
of seconds may be asked for, an end has to be in the calendar to be an instant at all, and it must
not be before 1970 to be a date of claims.  An end that is in the calendar and no date is reported.
One that is out of the calendar is not: it is computed before anything is checked, and there the
program breaks off (`mint_lifetime`).
-/

namespace BearerAuth

open Token (Algorithm Compact)

/-! ## Claims that are written as they are -/

/-- Well-formed claims whose numbers are whole and small. -/
structure Claims.Exact (c : Claims) : Prop where
  /-- The claims are well formed. -/
  wellFormed : c.WellFormed
  /-- Numbers are whole and small. -/
  whole : ∀ name value, c.get? name = some value → value.IsWhole

namespace Claims.Exact

variable {c d : Claims}

theorem empty : Claims.empty.Exact := ⟨wellFormed_empty, fun _ _ h ↦ nomatch h⟩

/-- Scopes may be any. -/
theorem withScopes (h : c.Exact) (l : List String) : (c.withScopes l).Exact :=
  ⟨h.wellFormed.withScopes _, h.whole⟩

/-- Values that are set have to be whole and small. -/
theorem set (h : c.Exact) {name : String} {value : ClaimValue} (hvalue : value.IsWhole)
    (hset : (Claims.set name value).run c = .ok () d) : d.Exact := by
  refine ⟨h.wellFormed.set hset, fun other v hv ↦ ?_⟩
  obtain ⟨-, rfl⟩ := run_set_eq_ok_iff.mp hset
  rw [get?_place] at hv
  split at hv
  · cases hv
    exact hvalue
  · exact h.whole other v hv

/-- Values that are put in under the name of their claim have to be whole and small. -/
theorem put (h : c.Exact) {claim : RegisteredClaim} {value : ClaimValue}
    (hacc : claim.accepts value = true) (hscope : claim ≠ .scope) (hvalue : value.IsWhole) :
    (c.put claim value).Exact :=
  h.set hvalue (run_set_name c hacc hscope)

/-- Dates are whole and small. -/
theorem setDate (h : c.Exact) {claim : RegisteredClaim} (hclaim : claim ∈ RegisteredClaim.dates)
    {t : Instant} (hset : (Claims.setDate claim t).run c = .ok () d) : d.Exact := by
  obtain ⟨⟨hsign, hlast⟩, -⟩ := (run_set_whole_eq_ok_iff hclaim).mp hset
  have hsmall := Instant.natAbs_lt hsign hlast
  have hwhole : (ClaimValue.number (.ofInt t.seconds)).IsWhole :=
    ⟨_, Binary64.toInt?_ofInt hsmall, hsmall⟩
  exact h.set hwhole hset

end Claims.Exact

/-- Whether a token has a whole number under some name in its payload. -/
def Token.States (token name : String) (n : Int) : Prop :=
  ∃ segments payload, Compact.ofText? token = some segments ∧ segments.object? = some payload ∧
    payload.get? name = some (.ofInt n)

/-- A token that is issued for plain claims states what they say. -/
theorem Token.states_of_createIdentity {a : JwtAuthenticator} {random : Nat} {c : Claims}
    {token name : String} {n : Int} (hc : c.Exact) (hissue : a.createIdentity random c = .ok token)
    (hname : c.toPayload.get? name = some (.ofInt n)) : States token name n := by
  obtain ⟨pair, key, signature, -, -, -, rfl⟩ :=
    JwtAuthenticator.createIdentity_eq_ok_iff.mp hissue
  refine ⟨_, _, JwtAuthenticator.ofText?_issued a c signature, ?_, hname⟩
  refine Payload.object?_of_ofSegment ?_
  rw [JwtAuthenticator.payload_issued]
  exact hc.wellFormed.ofSegment_toPayload hc.whole

namespace CommandLine

variable {a : Algorithm} {now : Instant} {random : Nat} {key : String} {subject : Option String}
  {scopes : List String} {lifetime : Int} {tokenId : Bool}

/-! ## The end of a lifetime -/

/-- Whole seconds are counted from now; what remains of the present second stays. -/
theorem expiry?_eq (now : Instant) (lifetime : Int) :
    expiry? now lifetime =
      Instant.of? (now.seconds + lifetime) (now.nanos % Instant.perSecond) := by
  rw [expiry?, Instant.ofNanos?, Instant.toNanos]
  simp only [Instant.perSecond]
  congr 1 <;> omega

/-- The end of a lifetime is an instant just if it is in the calendar. -/
theorem exists_expiry?_iff : (∃ stop, expiry? now lifetime = some stop) ↔
    Instant.firstSecond ≤ now.seconds + lifetime ∧ now.seconds + lifetime ≤ Instant.lastSecond := by
  rw [expiry?_eq, Instant.exists_of?_iff]
  exact .inl (Nat.mod_lt _ (by decide))

/-- Otherwise there is none. -/
theorem expiry?_eq_none_iff : expiry? now lifetime = none ↔
    now.seconds + lifetime < Instant.firstSecond ∨
      Instant.lastSecond < now.seconds + lifetime := by
  rw [← Option.not_isSome_iff_eq_none, Option.isSome_iff_exists, exists_expiry?_iff, not_and_or,
    not_le, not_le]

/-- A lifetime whose milliseconds have more than 63 bits leads out of the calendar, whenever it
begins. -/
theorem expiry?_of_long (now : Instant) (h : 9223372036854775 < lifetime.natAbs) :
    expiry? now lifetime = none := by
  have hfirst := now.first_le
  have hlast := now.le_last
  rw [expiry?_eq_none_iff]
  simp only [Instant.firstSecond, Instant.lastSecond] at *
  omega

/-- The seconds of the end are those of the beginning and of the lifetime together. -/
theorem seconds_of_expiry? {stop : Instant} (h : expiry? now lifetime = some stop) :
    stop.seconds = now.seconds + lifetime := by
  rw [expiry?_eq] at h
  exact Instant.seconds_of_of? h

/-! ## The claims of a new token -/

section

variable (random : Nat) (key : String) (subject : Option String) (scopes : List String)
  (tokenId : Bool)

/-- A subject, if there is one, leaves claims exact. -/
theorem exact_withSubject {c : Claims} (hc : c.Exact) : (match subject with
    | some s => c.withSubject s
    | none => c).Exact := by
  cases subject with
  | none => exact hc
  | some s => exact hc.put rfl (by decide) trivial

/-- All claims of a new token but its dates are there first, then that it is issued now, and then
its end. -/
theorem exists_undated : ∃ c : Claims, c.Exact ∧ ∀ lifetime,
    mintClaims now random subject scopes (some lifetime) tokenId =
      match c.attempt (Claims.setDate .issuedAt now), expiry? now lifetime with
      | .error e, _ => some (.error e)
      | .ok _, none => none
      | .ok c, some stop => some (c.attempt (Claims.setDate .expirationTime stop)) := by
  refine ⟨_, ?_, fun lifetime ↦ rfl⟩
  have hsubject := exact_withSubject subject (Claims.Exact.empty.withScopes scopes)
  cases tokenId with
  | false => exact hsubject
  | true => exact hsubject.put rfl (by decide) trivial

/-- From 1970 on there are claims for a token without a lifetime; those of a token with one have its
end besides, if there is such an instant. -/
theorem exists_mintClaims (hnow : 0 ≤ now.seconds) : ∃ c : Claims, c.Exact ∧
    ∀ lifetime, mintClaims now random subject scopes (some lifetime) tokenId =
      (expiry? now lifetime).map (c.attempt <| Claims.setDate .expirationTime ·) := by
  obtain ⟨c, hc, hmint⟩ := exists_undated random subject scopes tokenId
  have hissued : c.attempt (Claims.setDate .issuedAt now) =
      .ok (c.place RegisteredClaim.issuedAt.name (.number (.ofInt now.seconds))) :=
    (Claims.attempt_setDate (by decide) c now).trans (if_pos hnow)
  refine ⟨_, hc.setDate (by decide) (Claims.attempt_eq_ok_iff.mp hissued), fun lifetime ↦ ?_⟩
  rw [hmint, hissued]
  cases expiry? now lifetime <;> rfl

/-! ## Issuing -/

/-- The secret makes an authenticator under the name of every algorithm. -/
theorem secretAuthenticator_name (a : Algorithm) :
    secretAuthenticator key a.name = .ok (.ofSecret a (Text.toBytes key)) := by
  rw [secretAuthenticator, Algorithm.ofName?_name]
  rfl

/-- Under an algorithm that shares a secret, a token is issued for all claims. -/
theorem exists_createIdentity_ofSecret (hfamily : a.family = .hmac) (secret : List UInt8)
    (c : Claims) :
    ∃ token, (JwtAuthenticator.ofSecret a secret).createIdentity random c = .ok token :=
  (JwtAuthenticator.exists_createIdentity_iff rfl rfl).mpr ⟨.secret hfamily, nofun⟩

/-- How the program ends when a token was to be issued, or was not even tried. -/
def outcomeOf : Option (Except AuthError String) → Outcome
  | some (.ok token) => .done (token ++ "\n")
  | some (.error e) => .failed [e.message]
  | none => .brokenOff

/-- A token with a lifetime is issued for claims that have its end, if there is such an instant. -/
theorem exists_mint_eq (a : Algorithm) (hnow : 0 ≤ now.seconds) : ∃ c : Claims, c.Exact ∧
    ∀ lifetime, mint now random key a.name subject scopes (some lifetime) tokenId =
      outcomeOf ((expiry? now lifetime).map fun stop ↦
        (c.attempt (Claims.setDate .expirationTime stop)).bind <|
          (JwtAuthenticator.ofSecret a (Text.toBytes key)).createIdentity random) := by
  obtain ⟨c, hc, hmint⟩ := exists_mintClaims random subject scopes tokenId hnow
  refine ⟨c, hc, fun lifetime ↦ ?_⟩
  rw [mint, secretAuthenticator_name, hmint]
  cases expiry? now lifetime with
  | none => rfl
  | some stop =>
    simp only [Option.map_some]
    cases (c.attempt (Claims.setDate .expirationTime stop)).bind _ <;> rfl

end

/-- An end from 1970 on that is in the calendar is that of the token. -/
theorem mint_of_date (hfamily : a.family = .hmac) (hnow : 0 ≤ now.seconds)
    (hstart : 0 ≤ now.seconds + lifetime)
    (hlast : now.seconds + lifetime ≤ Instant.lastSecond) :
    ∃ token, mint now random key a.name subject scopes (some lifetime) tokenId =
        .done (token ++ "\n") ∧ Token.States token "exp" (now.seconds + lifetime) := by
  obtain ⟨c, hc, hmint⟩ := exists_mint_eq random key subject scopes tokenId a hnow
  have hfirst : Instant.firstSecond ≤ now.seconds + lifetime := le_trans (by decide) hstart
  obtain ⟨stop, hstop⟩ := exists_expiry?_iff.mpr ⟨hfirst, hlast⟩
  rw [← seconds_of_expiry? hstop] at hstart ⊢
  obtain ⟨d, hset⟩ : ∃ d, c.attempt (Claims.setDate .expirationTime stop) = .ok d :=
    ⟨_, (Claims.attempt_setDate (by decide) c stop).trans (if_pos hstart)⟩
  obtain ⟨token, htoken⟩ := exists_createIdentity_ofSecret random hfamily (Text.toBytes key) d
  have hdate := Claims.attempt_eq_ok_iff.mp hset
  refine ⟨token, ?_, Token.states_of_createIdentity (hc.setDate (by decide) hdate) htoken ?_⟩
  · rw [hmint, hstop, Option.map_some, hset]
    exact congrArg (outcomeOf ∘ some) htoken
  · exact (hc.wellFormed.dated_of_set .expirationTime hdate).written

/-- An end before 1970 that is in the calendar is reported. -/
theorem mint_of_past (hnow : 0 ≤ now.seconds)
    (hfirst : Instant.firstSecond ≤ now.seconds + lifetime) (hpast : now.seconds + lifetime < 0) :
    mint now random key a.name subject scopes (some lifetime) tokenId =
      .failed [AuthError.invalidExpiration.message] := by
  obtain ⟨c, -, hmint⟩ := exists_mint_eq random key subject scopes tokenId a hnow
  obtain ⟨stop, hstop⟩ := exists_expiry?_iff.mpr ⟨hfirst, hpast.le.trans (by decide)⟩
  have hset : c.attempt (Claims.setDate .expirationTime stop) = .error .invalidExpiration := by
    rw [Claims.attempt_setDate (by decide), seconds_of_expiry? hstop, if_neg hpast.not_ge]
    rfl
  rw [hmint, hstop, Option.map_some, hset]
  rfl

/-- At an end out of the calendar the program breaks off. -/
theorem mint_of_out (hnow : 0 ≤ now.seconds) (hout : now.seconds + lifetime < Instant.firstSecond ∨
      Instant.lastSecond < now.seconds + lifetime) :
    mint now random key a.name subject scopes (some lifetime) tokenId = .brokenOff := by
  obtain ⟨c, -, hmint⟩ := exists_mint_eq random key subject scopes tokenId a hnow
  rw [hmint, expiry?_eq_none_iff.mpr hout]
  rfl

/-- What the program does with a lifetime is decided by where it ends.  An end from 1970 on that is
in the calendar is that of the token.  One before 1970 is reported.  For one that is out of the
calendar there is neither a token nor a report. -/
theorem mint_lifetime (hfamily : a.family = .hmac) (hnow : 0 ≤ now.seconds) :
    (0 ≤ now.seconds + lifetime ∧ now.seconds + lifetime ≤ Instant.lastSecond →
      ∃ token, mint now random key a.name subject scopes (some lifetime) tokenId =
          .done (token ++ "\n") ∧ Token.States token "exp" (now.seconds + lifetime)) ∧
    (Instant.firstSecond ≤ now.seconds + lifetime ∧ now.seconds + lifetime < 0 →
      mint now random key a.name subject scopes (some lifetime) tokenId =
        .failed [AuthError.invalidExpiration.message]) ∧
    (now.seconds + lifetime < Instant.firstSecond ∨
        Instant.lastSecond < now.seconds + lifetime →
      mint now random key a.name subject scopes (some lifetime) tokenId = .brokenOff) :=
  ⟨fun h ↦ mint_of_date hfamily hnow h.1 h.2, fun h ↦ mint_of_past hnow h.1 h.2, mint_of_out hnow⟩

/-- At the start of 1970 a lifetime of a minute gives a token, and one that is over already is
reported. -/
theorem mint_lifetime_minute :
    0 ≤ Instant.epoch.seconds ∧
      (∃ token, mint .epoch 0 "k" "HS256" none [] (some 60) false = .done (token ++ "\n") ∧
        Token.States token "exp" 60) ∧
      mint .epoch 0 "k" "HS256" none [] (some (-1)) false =
        .failed ["invalid expiration time"] := by
  refine ⟨by decide, ?_, ?_⟩
  · exact (mint_lifetime (a := .hs256) rfl (by decide)).1 (by decide)
  · exact (mint_lifetime (a := .hs256) rfl (by decide)).2.1 (by decide)

/-- The longest lifetime that can be asked for gives no token, and no report of it either. -/
theorem run_mint_longest :
    lifetimeOf? "9223372036854775807" = some (2 ^ 63 - 1) ∧
      run ⟨fun _ ↦ none, fun _ ↦ .error .notFound⟩ Network.Host.plainNames Network.unreachable
        .epoch 0 ["mint", "--key", "k", "--exp-secs", "9223372036854775807"] = .ended .brokenOff ∧
      Outcome.brokenOff ≠ .failed [AuthError.invalidExpiration.message] ∧
      ∀ output, Outcome.brokenOff ≠ .done output := by
  refine ⟨by decide, ?_, by decide, nofun⟩
  change Result.ended (mint .epoch 0 "k" "HS256" none [] (some 9223372036854775807) false) = _
  exact congrArg Result.ended (mint_of_out (a := .hs256) (by decide) (.inr (by decide)))

end CommandLine

end BearerAuth
