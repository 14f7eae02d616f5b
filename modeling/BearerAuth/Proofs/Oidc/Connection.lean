import BearerAuth.Proofs.Json.Bytes
import BearerAuth.Proofs.Oidc.KeySet
import BearerAuth.Proofs.Oidc.Refinement

/-!
# Connecting to a provider

A relying party is made from options and from what a provider serves, in two requests.  Ten
conditions have to hold for that (`Condition`), and they are looked at in one order: those of the
options first, then those of the two responses, and one of the options at the very end.  The first
that does not hold decides the error.

Every stage of the way decides some of the conditions (`Decides`), and what two stages decide, the
one after the other decides together (`Decides.bind`).  So it is enough to look at each stage alone.
-/

namespace BearerAuth

open Json (Source)
open Oidc (Provider RemoteKeySet KeyRecord Session)

namespace Oidc

/-- The document at the address of a provider. -/
def document? (names : Network.Names) (pages : Network.Pages) (issuerUrl : String) :
    Option Provider := do
  let response ← Network.get? names pages (discoveryUri issuerUrl)
  let bytes ← response.body
  let source ← Source.ofBytes? bytes
  Provider.ofSource? source

/-- What has to hold for a relying party to be made. -/
inductive Condition where
  /-- The address of the provider is one. -/
  | issuerUrl
  /-- The time between two attempts to refresh is not zero and at most a year. -/
  | refreshInterval
  /-- The algorithm is for RSA keys or for elliptic curves. -/
  | algorithm
  /-- The request for the document of the provider is answered with status 200. -/
  | documentServed
  /-- The answer is the document of a provider. -/
  | documentRead
  /-- The document names an issuer. -/
  | issuer
  /-- The document names an address of keys. -/
  | jwksUri
  /-- The request for the keys is answered with a status of success. -/
  | keysServed
  /-- The answer is a document of keys, of which one is usable. -/
  | usableKey
  /-- The leeway is a number of milliseconds with 63 bits. -/
  | leeway

namespace Condition

/-- The conditions in the order in which they are looked at. -/
def all : List Condition :=
  [issuerUrl, refreshInterval, algorithm, documentServed, documentRead, issuer, jwksUri, keysServed,
    usableKey, leeway]

/-- Whether a condition holds. -/
def Holds (names : Network.Names) (pages : Network.Pages) (o : OidcOptions) : Condition → Prop
  | issuerUrl => ∃ url, Network.Url.ofText names o.issuerUrl = .ok url
  | refreshInterval => 0 < o.refreshInterval ∧ o.refreshInterval ≤ 365 * 24 * 60 * 60 * 10 ^ 9
  | algorithm => o.algorithm.family = .rsa ∨ o.algorithm.family = .ec
  | documentServed => ∃ r, Network.get? names pages (discoveryUri o.issuerUrl) = some r ∧
      r.status = 200
  | documentRead => ∃ p, document? names pages o.issuerUrl = some p
  | issuer => ∃ p, document? names pages o.issuerUrl = some p ∧ p.issuer ≠ ""
  | jwksUri => ∃ p, document? names pages o.issuerUrl = some p ∧ p.jwksUri ≠ ""
  | keysServed => ∃ p r, document? names pages o.issuerUrl = some p ∧
      Network.get? names pages p.jwksUri = some r ∧ 200 ≤ r.status ∧ r.status < 300
  | usableKey => ∃ p records, document? names pages o.issuerUrl = some p ∧
      served? names pages p.jwksUri = some records ∧ usableKeys records ≠ []
  | leeway => o.leeway ≤ (2 ^ 63 - 1) * 10 ^ 6

/-- The errors that say that a condition does not hold.  What another library says of it may stand
at the end of a message. -/
def Reports (names : Network.Names) (pages : Network.Pages) (o : OidcOptions) (e : AuthError) :
    Condition → Prop
  | issuerUrl => ∃ detail, e = .invalidConfiguration
      ("invalid OIDC issuer URL `" ++ o.issuerUrl ++ "`: " ++ detail)
  | refreshInterval =>
      e = .invalidConfiguration "JWKS refresh interval must be between 1ns and 31536000s"
  | algorithm => e = .invalidConfiguration ("unsupported OIDC signing method " ++ o.algorithm.name)
  | documentServed => (∃ detail, e = .discovery ("error getting OIDC: " ++ detail)) ∨
      ∃ r, Network.get? names pages (discoveryUri o.issuerUrl) = some r ∧
        e = .discovery ("unexpected status code getting OIDC: " ++ r.status.repr)
  | documentRead => (∃ detail, e = .discovery ("error reading response body: " ++ detail)) ∨
      ∃ detail, e = .discovery ("failed parsing document: " ++ detail)
  | issuer => e = .discovery "missing issuer value"
  | jwksUri => e = .discovery "missing jwks_uri value"
  | keysServed => ∃ p detail, document? names pages o.issuerUrl = some p ∧
      e = .discovery ("error fetching keys from " ++ p.jwksUri ++ ": " ++
        ("Failed to fetch JWKS: " ++ detail))
  | usableKey => ∃ p, document? names pages o.issuerUrl = some p ∧
      ((∃ detail, e = .discovery ("error fetching keys from " ++ p.jwksUri ++ ": " ++
          ("Failed to parse JWKS: " ++ detail))) ∨
        e = .discovery ("error fetching keys from " ++ p.jwksUri ++ ": " ++
          "No valid keys found in JWKS"))
  | leeway => e = .invalidConfiguration "leeway out of range"

/-- Whether a condition is the first of some that does not hold. -/
def FailsFirst (names : Network.Names) (pages : Network.Pages) (o : OidcOptions)
    (conditions : List Condition) (c : Condition) : Prop :=
  ∃ passed rest, conditions = passed ++ c :: rest ∧ (∀ d ∈ passed, d.Holds names pages o) ∧
    ¬c.Holds names pages o

end Condition

/-! ## Stages -/

section Stages

variable {α β : Type} {names : Network.Names} {pages : Network.Pages} {o : OidcOptions}

/-- Whether a result is decided by some conditions. -/
inductive Decides (names : Network.Names) (pages : Network.Pages) (o : OidcOptions)
    (conditions : List Condition) : Except AuthError α → Prop
  /-- There is a result if all conditions hold. -/
  | ok {a : α} : (∀ c ∈ conditions, c.Holds names pages o) →
      Decides names pages o conditions (.ok a)
  /-- Otherwise the first condition that does not hold is reported. -/
  | error {c : Condition} {e : AuthError} : c.FailsFirst names pages o conditions →
      c.Reports names pages o e → Decides names pages o conditions (.error e)

/-- If there is nothing to decide, there is a result. -/
theorem Decides.nil (a : α) : Decides names pages o [] (.ok a : Except AuthError α) := .ok nofun

/-- A condition that holds leaves it to the others to decide. -/
theorem Decides.pass {c : Condition} {conditions : List Condition} {x : Except AuthError α}
    (hc : c.Holds names pages o) (hx : Decides names pages o conditions x) :
    Decides names pages o (c :: conditions) x := by
  cases hx with
  | ok hall => exact .ok (List.forall_mem_cons.mpr ⟨hc, hall⟩)
  | error hfirst hreports =>
    obtain ⟨passed, rest, rfl, hpassed, hd⟩ := hfirst
    exact .error ⟨c :: passed, rest, rfl, List.forall_mem_cons.mpr ⟨hc, hpassed⟩, hd⟩ hreports

/-- Two stages decide together what each decides alone. -/
theorem Decides.bind {conditions further : List Condition} {x : Except AuthError α}
    {f : α → Except AuthError β} (hx : Decides names pages o conditions x)
    (hf : ∀ a, x = .ok a → Decides names pages o further (f a)) :
    Decides names pages o (conditions ++ further) (x >>= f) := by
  cases hx with
  | error hfirst hreports =>
    obtain ⟨passed, rest, rfl, hpassed, hc⟩ := hfirst
    exact .error ⟨passed, rest ++ further, by simp, hpassed, hc⟩ hreports
  | @ok a hall =>
    have hrest : Decides names pages o further (f a) := hf a rfl
    change Decides names pages o (conditions ++ further) (f a)
    clear hf
    induction conditions with
    | nil => exact hrest
    | cons c conditions ih =>
      obtain ⟨hc, hall⟩ := List.forall_mem_cons.mp hall
      exact .pass hc (ih hall)

/-- A complete response is the document of a provider if it can be read as one. -/
theorem document?_of_get? {issuerUrl : String} {r : Network.Response} {bytes : List UInt8}
    (hr : Network.get? names pages (discoveryUri issuerUrl) = some r)
    (hbytes : r.body = some bytes) :
    document? names pages issuerUrl =
      (Source.ofBytes? bytes).bind Provider.ofSource? := by
  simp [document?, hr, hbytes]

/-- A provider is discovered by its document. -/
theorem document?_of_discover {issuerUrl : String} {p : Provider}
    (h : discover names pages issuerUrl = .ok p) :
    document? names pages issuerUrl = some p ∧ p.issuer ≠ "" ∧ p.jwksUri ≠ "" := by
  rw [discover] at h
  repeat' split at h
  all_goals cases h
  next r hr _ _ bytes hbytes _ hp hissuer huri =>
    exact ⟨(document?_of_get? hr hbytes).trans hp, hissuer, huri⟩

variable {p : Provider}

end Stages

/-- Where the document of a provider is, behind its address. -/
def documentPath : List Char := "/.well-known/openid-configuration".toList

/-- The pages of a provider: its document where it should be, and everywhere else the document of
its keys. -/
def serving (document keys : Json) : Network.Pages := fun url ↦
  some ⟨200, some (Text.toBytes (if url.path = documentPath then document else keys).toText)⟩

section Serving

variable {names : Network.Names} {document keys : Json} {url : Network.Url}

/-- The document that is served tells the provider, if it names an issuer and an address of keys. -/
theorem discover_serving {issuerUrl : String} {p : Provider}
    (hurl : Network.Url.ofText names (discoveryUri issuerUrl) = .ok url)
    (hpath : url.path = documentPath)
    (hnumeric : document.Numeric) (hp : Provider.ofSource? document.written = some p)
    (hissuer : p.issuer ≠ "") (huri : p.jwksUri ≠ "") :
    discover names (serving document keys) issuerUrl = .ok p := by
  have hget : Network.get? names (serving document keys) (discoveryUri issuerUrl) =
      some ⟨200, some (Text.toBytes document.toText)⟩ := by
    rw [Network.get?, hurl]
    simp only [serving, if_pos hpath]
  rw [discover, hget]
  simp [Json.ofBytes?_toText hnumeric, hp, hissuer, huri]

/-- The keys that are served are fetched, if one is usable. -/
theorem fetch_serving {uri : String} {records : List KeyRecord}
    (hurl : Network.Url.ofText names uri = .ok url) (hpath : url.path ≠ documentPath)
    (hnumeric : keys.Numeric) (hrecords : keyRecords? keys.written = some records)
    (hne : usableKeys records ≠ []) :
    RemoteKeySet.fetch names (serving document keys) uri =
      .ok { uri, keys := usableKeys records } := by
  refine RemoteKeySet.fetch_eq_ok_iff.mpr ⟨records, ?_, hne, rfl⟩
  have hget : Network.get? names (serving document keys) uri =
      some ⟨200, some (Text.toBytes keys.toText)⟩ := by
    rw [Network.get?, hurl]
    simp only [serving, if_neg hpath]
  rw [served?, hget, Option.bind_some, records?]
  simp [Json.ofBytes?_toText hnumeric, hrecords]

end Serving

end Oidc

namespace OidcAuthenticator

open Network.Host (plainNames)
open Oidc (Condition discover)

variable {names : Network.Names} {pages : Network.Pages} {o : OidcOptions}

/-- The relying party that looks keys up in a set of keys. -/
def holding (a : OidcAuthenticator) (held : RemoteKeySet) : OidcAuthenticator :=
  { a with keys := held.key? }

/-- A relying party that connects is the one of its parts, except that its keys are refreshed. -/
theorem connect_eq_ok_iff {a : OidcAuthenticator} :
    connect names pages o = .ok a ↔ ∃ provider held b,
      discover names pages o.issuerUrl = .ok provider ∧
      RemoteKeySet.fetch names pages provider.jwksUri = .ok held ∧
      ofParts names o provider held.key? = .ok b ∧
      a = b.holding (held.startRefresh o.refreshInterval) := by
  rw [connect]
  constructor
  · intro h
    obtain ⟨_, hvalid, h⟩ := Except.bind_eq_ok_iff.mp h
    obtain ⟨provider, hprovider, h⟩ := Except.bind_eq_ok_iff.mp h
    obtain ⟨held, hheld, h⟩ := Except.bind_eq_ok_iff.mp h
    obtain ⟨window, hwindow, rfl⟩ := ofParts_eq_ok h
    refine ⟨provider, held, ⟨o, provider, held.key?, window⟩, hprovider,
      Except.mapError_eq_ok_iff.mp hheld, ?_, rfl⟩
    rw [ofParts, hvalid, hwindow]
    rfl
  · rintro ⟨provider, held, b, hprovider, hheld, hb, rfl⟩
    obtain ⟨_, hvalid, -⟩ := Except.bind_eq_ok_iff.mp hb
    obtain ⟨window, hwindow, rfl⟩ := ofParts_eq_ok hb
    refine Except.bind_eq_ok_iff.mpr ⟨_, hvalid, Except.bind_eq_ok_iff.mpr ⟨provider, hprovider,
      Except.bind_eq_ok_iff.mpr ⟨held, Except.mapError_eq_ok_iff.mpr hheld, ?_⟩⟩⟩
    rw [ofParts, hvalid, hwindow]
    rfl

/-- The pages of the provider, with the issuer that its document names. -/
def announcing (issuer : String) : Network.Pages :=
  Oidc.serving
    (.object [("issuer", .string issuer), ("jwks_uri", .string "http://id.example/k")])
    (.object [("keys", .array [.object
      [("kty", .string "RSA"), ("n", .string publishedModulus), ("e", .string "AQAB")]])])

/-- The relying party connects to the provider, whatever issuer its document names. -/
theorem connect_announcing {issuer : String} (h : issuer ≠ "") :
    connect plainNames (announcing issuer) announcedOptions = .ok (announced issuer) := by
  have hdocument : Network.Url.ofText plainNames (Oidc.discoveryUri announcedOptions.issuerUrl) =
      .ok ⟨"http", some (.domain "id.example".toList), none, Oidc.documentPath, none⟩ := by
    decide +kernel
  have hkeys : Network.Url.ofText plainNames "http://id.example/k" =
      .ok ⟨"http", some (.domain "id.example".toList), none, ['/', 'k'], none⟩ := by decide +kernel
  have hprovider : discover plainNames (announcing issuer) announcedOptions.issuerUrl =
      .ok (announced issuer).provider :=
    Oidc.discover_serving hdocument rfl ⟨trivial, trivial, trivial⟩ rfl h (by simp [announced])
  have hheld : RemoteKeySet.fetch plainNames (announcing issuer) "http://id.example/k" =
      .ok { uri := "http://id.example/k", keys := [(none, publishedKey)] } := by
    have hkey : Oidc.usableKeys [{ kind := "RSA", n := some publishedModulus, e := some "AQAB" }] =
        [(none, publishedKey)] := by decide +kernel
    rw [← hkey]
    refine Oidc.fetch_serving hkeys (by decide) ?_ rfl (by rw [hkey]; exact List.cons_ne_nil _ _)
    exact ⟨⟨⟨trivial, trivial, trivial, trivial⟩, trivial⟩, trivial⟩
  exact connect_eq_ok_iff.mpr ⟨_, _, _, hprovider, hheld, ofParts_announced issuer _, rfl⟩

end OidcAuthenticator

end BearerAuth
