import BearerAuth.Proofs.Claims.Wire
import BearerAuth.Proofs.Instant
import BearerAuth.Proofs.Json.Finite
import BearerAuth.Proofs.Trust

/-!
# Which payloads are read

A payload is read just if each registered claim in it has its shape, and nothing else in it matters
(`ofPayload_decided`).  Which fault is reported is decided by the order of the names: members are
read one after the other, the first one that does not fit ends the reading
(`run_addMembers_eq_error_iff`), and a payload has its members in the order of their names.

Shapes are said of the JSON values here (`RegisteredClaim.Suits`), and not of the claims that are
made of them, so that a value of which no claim can be made is one that does not suit either.
-/

namespace BearerAuth

/-! ## Values -/

namespace Json

/-- Which value stands for which claim: texts, lists of texts and numbers do, and nothing else. -/
inductive Denotes : Json → ClaimValue → Prop
  /-- A text. -/
  | text (s : String) : Denotes (.string s) (.text s)
  /-- A list of texts. -/
  | texts (l : List String) : Denotes (.ofStrings l) (.texts l)
  /-- A number. -/
  | number (n : Number) : Denotes (.number n) (.number n.toBinary64)

/-- Which scopes a value grants: the parts between the spaces of a text, or the texts of a list. -/
inductive Grants : Json → String → Prop
  /-- A part of a text. -/
  | part {s x : String} : x ≠ "" → x.toList ∈ Text.split ' ' s.toList → Grants (.string s) x
  /-- A text of a list. -/
  | item {l : List String} {x : String} : x ∈ l → Grants (.ofStrings l) x

/-- The texts of a list are found if it is a list of texts. -/
theorem strings?_eq_some_iff {v : Json} {l : List String} :
    v.strings? = some l ↔ v = .ofStrings l := by
  refine ⟨fun h ↦ ?_, fun h ↦ h ▸ strings?_ofStrings l⟩
  cases v with
  | array items =>
    rw [strings?] at h
    rw [ofStrings]
    congr 1
    induction items generalizing l with
    | nil =>
      cases h
      rfl
    | cons v rest ih =>
      rw [List.mapM_cons] at h
      obtain ⟨s, hs, h⟩ := Option.bind_eq_some_iff.mp h
      obtain ⟨tail, htail, h⟩ := Option.bind_eq_some_iff.mp h
      cases h
      cases v with
      | string _ =>
        cases hs
        rw [List.map_cons, ih htail]
      | null | bool _ | number _ | array _ | object _ => cases hs
  | null | bool _ | number _ | string _ | object _ => cases h

/-- A claim is made of a value just if the value stands for it. -/
theorem denotes_iff {v : Json} {value : ClaimValue} :
    v.Denotes value ↔ ClaimValue.ofJson? v = some value := by
  constructor
  · intro h
    cases h with
    | text s => rfl
    | texts l => exact Option.map_eq_some_iff.mpr ⟨l, strings?_ofStrings l, rfl⟩
    | number n => rfl
  · intro h
    cases v with
    | string s =>
      cases h
      exact .text s
    | number n =>
      cases h
      exact .number n
    | array items =>
      obtain ⟨l, hl, rfl⟩ := Option.map_eq_some_iff.mp h
      rw [strings?_eq_some_iff.mp hl]
      exact .texts l
    | null | bool _ | object _ => cases h

/-- The scopes of a claim are those that the value grants. -/
theorem grants_iff {v : Json} {value : ClaimValue} (h : v.Denotes value) {x : String} :
    v.Grants x ↔ x ∈ Claims.scopesOf value := by
  cases h with
  | text s =>
    rw [Claims.scopesOf, ScopeSet.mem_parse]
    constructor
    · rintro ⟨hne, hpart⟩
      exact ⟨hne, hpart⟩
    · rintro ⟨hne, hpart⟩
      exact .part hne hpart
  | texts l =>
    rw [Claims.scopesOf, ScopeSet.mem_ofList]
    refine ⟨fun hgrants ↦ ?_, .item⟩
    generalize hv : ofStrings l = v at hgrants
    cases hgrants with
    | part _ _ => cases hv
    | @item m x hx =>
      have hlists := strings?_ofStrings l
      rw [hv, strings?_ofStrings, Option.some.injEq] at hlists
      exact hlists ▸ hx
  | number n =>
    rw [Claims.scopesOf]
    refine ⟨nofun, fun hx ↦ absurd hx ScopeSet.notMem_empty⟩

end Json

/-! ## Shapes -/

namespace RegisteredClaim

/-- The shape that a registered claim asks for. -/
def Suits : RegisteredClaim → Json → Prop
  | subject, v | issuer, v | tokenId, v => ∃ s, v = .string s
  | audience, v | scope, v => (∃ s, v = .string s) ∨ ∃ l, v = .ofStrings l
  | expirationTime, v | notBefore, v | issuedAt, v =>
    ∃ n, v = .number n ∧ Instant.IsDate n.toBinary64

/-- A value suits a registered claim if it stands for a claim that is accepted there. -/
theorem suits_iff {claim : RegisteredClaim} {v : Json} :
    claim.Suits v ↔ ∃ value, v.Denotes value ∧ claim.accepts value = true := by
  match claim with
  | .subject | .issuer | .tokenId =>
    constructor
    · rintro ⟨s, rfl⟩
      exact ⟨_, .text s, rfl⟩
    · rintro ⟨_, ⟨s⟩ | ⟨l⟩ | ⟨n⟩, hacc⟩
      · exact ⟨s, rfl⟩
      · cases hacc
      · cases hacc
  | .audience | .scope =>
    constructor
    · rintro (⟨s, rfl⟩ | ⟨l, rfl⟩)
      · exact ⟨_, .text s, rfl⟩
      · exact ⟨_, .texts l, rfl⟩
    · rintro ⟨_, ⟨s⟩ | ⟨l⟩ | ⟨n⟩, hacc⟩
      · exact .inl ⟨s, rfl⟩
      · exact .inr ⟨l, rfl⟩
      · cases hacc
  | .expirationTime | .notBefore | .issuedAt =>
    constructor
    · rintro ⟨n, rfl, hdate⟩
      exact ⟨_, .number n,
        Option.isSome_iff_exists.mpr (Instant.exists_ofNumericDate?_iff.mpr hdate)⟩
    · rintro ⟨_, ⟨s⟩ | ⟨l⟩ | ⟨n⟩, hacc⟩
      · cases hacc
      · cases hacc
      · exact ⟨n, rfl, Instant.exists_ofNumericDate?_iff.mp (Option.isSome_iff_exists.mp hacc)⟩

end RegisteredClaim

namespace Claims

/-- Among numbers of JSON, which are all finite, a member fits if it suits the registered claim of
its name; a member of another name always fits. -/
theorem fits_iff {name : String} {v : Json}
    (hfinite : ∀ n, v = .number n → n.toBinary64.isFinite = true) :
    Fits name v ↔ ∀ claim : RegisteredClaim, claim.name = name → claim.Suits v := by
  rw [Fits]
  cases hname : RegisteredClaim.ofName? name with
  | some claim =>
    obtain rfl := RegisteredClaim.name_of_ofName? hname
    have hsuits : (∀ other : RegisteredClaim, other.name = claim.name → other.Suits v) ↔
        claim.Suits v := by
      refine ⟨fun h ↦ h claim rfl, fun h other hother ↦ ?_⟩
      have hsame := congrArg RegisteredClaim.ofName? hother
      rw [RegisteredClaim.ofName?_name, RegisteredClaim.ofName?_name, Option.some.injEq] at hsame
      exact hsame ▸ h
    rw [hsuits, RegisteredClaim.suits_iff]
    simp only [Json.denotes_iff, accepts_name]
    cases ClaimValue.ofJson? v <;> simp
  | none =>
    have hother : ∀ claim : RegisteredClaim, claim.name ≠ name := by
      rintro claim rfl
      rw [RegisteredClaim.ofName?_name] at hname
      cases hname
    refine iff_of_true ?_ fun claim hclaim ↦ absurd hclaim (hother claim)
    cases hvalue : ClaimValue.ofJson? v with
    | none => rfl
    | some value =>
      unfold accepts
      rw [hname]
      cases value with
      | number x =>
        obtain ⟨n, rfl, rfl⟩ := eq_number_of_ofJson? hvalue
        exact hfinite n rfl
      | text _ | texts _ => rfl

/-! ## Faults -/

/-- Members in the order of their names are read up to the first one that does not fit. -/
theorem run_addMembers_eq_error_iff {c : Claims} {l : List (String × Json)} {e : AuthError}
    (hl : (l.map Prod.fst).Pairwise (· < ·)) :
    (∃ d, (addMembers l).run c = .error e d) ↔
      ∃ p ∈ l, ¬Fits p.1 p.2 ∧ (∀ q ∈ l, ¬Fits q.1 q.2 → p.1 ≤ q.1) ∧ e = shapeError p.1 := by
  induction l generalizing c with
  | nil => simp [addMembers]
  | cons p rest ih =>
    obtain ⟨name, v⟩ := p
    simp only [List.map_cons, List.pairwise_cons, List.forall_mem_map] at hl
    obtain ⟨hfirst, hrest⟩ := hl
    simp only [addMembers, EStateM.run_bind]
    cases hstep : (addMember name v).run c with
    | ok u d =>
      obtain ⟨hfits, -⟩ := run_addMember_eq_ok_iff.mp hstep
      simp [ih hrest, hfits]
    | error e' d =>
      obtain ⟨hfits, rfl, -⟩ := run_addMember_eq_error_iff.mp hstep
      simp only [EStateM.Result.error.injEq, exists_and_left, exists_eq', and_true]
      constructor
      · rintro rfl
        refine ⟨_, List.mem_cons_self, hfits, fun q hq _ ↦ ?_, rfl⟩
        rcases List.mem_cons.mp hq with rfl | hq
        · exact String.le_refl _
        · exact Std.le_of_lt (hfirst q hq)
      · rintro ⟨q, hq, -, hleast, rfl⟩
        rcases List.mem_cons.mp hq with rfl | hq
        · rfl
        · exact absurd (hfirst q hq) (String.not_lt.mpr (hleast _ List.mem_cons_self hfits))

/-- The fault that is reported for a payload is that of the first member that does not fit. -/
theorem ofPayload_eq_error_iff {payload : Dict Json} {e : AuthError} :
    ofPayload payload = .error e ↔ ∃ name v, payload.get? name = some v ∧ ¬Fits name v ∧
      (∀ other w, payload.get? other = some w → ¬Fits other w → name ≤ other) ∧
      e = shapeError name := by
  rw [ofPayload, attempt_eq_error_iff, run_addMembers_eq_error_iff payload.sorted]
  simp only [Prod.exists, Prod.forall, Dict.mem_entries_iff]

/-- Registered claims are reported by their own error. -/
@[simp] theorem shapeError_name (claim : RegisteredClaim) :
    shapeError claim.name = claim.shapeError := by
  rw [shapeError, RegisteredClaim.ofName?_name]

/-! ## Payloads -/

/-- Whether the numbers in a payload are finite.  All numbers of JSON are, and so are all that are
read from the text of a token (`finiteNumbers_of_object?`). -/
def FiniteNumbers (payload : Dict Json) : Prop :=
  ∀ name n, payload.get? name = some (.number n) → n.toBinary64.isFinite = true

/-- The object in the payload segment of a token has finite numbers. -/
theorem finiteNumbers_of_object? {segments : Token.Compact} {payload : Dict Json}
    (h : segments.object? = some payload) : FiniteNumbers payload := by
  obtain ⟨_, -, h⟩ := Option.bind_eq_some_iff.mp h
  obtain ⟨_, -, h⟩ := Option.bind_eq_some_iff.mp h
  obtain ⟨source, hsource, hdict⟩ := Option.bind_eq_some_iff.mp h
  exact fun _ _ ↦ Json.Source.isFinite_of_toDict? hsource hdict

/-- Whether a registered claim is in a payload, but not in its shape. -/
def Misshapen (payload : Dict Json) (claim : RegisteredClaim) : Prop :=
  ∃ v, payload.get? claim.name = some v ∧ ¬claim.Suits v

section

variable {payload : Dict Json} {c : Claims}

/-- The members that do not fit are the registered claims that do not have their shape. -/
theorem exists_not_fits_iff (hfinite : FiniteNumbers payload) {name : String} :
    (∃ v, payload.get? name = some v ∧ ¬Fits name v) ↔
      ∃ claim : RegisteredClaim, claim.name = name ∧ Misshapen payload claim := by
  constructor
  · rintro ⟨v, hv, hfits⟩
    rw [fits_iff fun n hn ↦ hfinite name n (hn ▸ hv)] at hfits
    push Not at hfits
    obtain ⟨claim, rfl, hsuits⟩ := hfits
    exact ⟨claim, rfl, v, hv, hsuits⟩
  · rintro ⟨claim, rfl, v, hv, hsuits⟩
    refine ⟨v, hv, fun hfits ↦ hsuits ?_⟩
    exact (fits_iff fun n hn ↦ hfinite _ n (hn ▸ hv)).mp hfits claim rfl

/-- The fault that is reported is that of the first registered claim that is not in its shape. -/
theorem ofPayload_eq_error_iff_misshapen (hfinite : FiniteNumbers payload) {e : AuthError} :
    ofPayload payload = .error e ↔ ∃ claim, Misshapen payload claim ∧
      (∀ other, Misshapen payload other → claim.name ≤ other.name) ∧ e = claim.shapeError := by
  rw [ofPayload_eq_error_iff]
  constructor
  · rintro ⟨name, v, hv, hfits, hleast, rfl⟩
    obtain ⟨claim, rfl, hclaim⟩ := (exists_not_fits_iff hfinite).mp ⟨v, hv, hfits⟩
    refine ⟨claim, hclaim, fun other hother ↦ ?_, shapeError_name claim⟩
    obtain ⟨w, hw, hnot⟩ := (exists_not_fits_iff hfinite).mpr ⟨other, rfl, hother⟩
    exact hleast _ w hw hnot
  · rintro ⟨claim, hclaim, hleast, rfl⟩
    obtain ⟨v, hv, hfits⟩ := (exists_not_fits_iff hfinite).mpr ⟨claim, rfl, hclaim⟩
    refine ⟨_, v, hv, hfits, fun other w hw hnot ↦ ?_, (shapeError_name claim).symm⟩
    obtain ⟨claim', rfl, hclaim'⟩ := (exists_not_fits_iff hfinite).mp ⟨w, hw, hnot⟩
    exact hleast claim' hclaim'

/-- A payload is not read just if a registered claim is not in its shape. -/
theorem exists_error_iff (hfinite : FiniteNumbers payload) :
    (∃ e, ofPayload payload = .error e) ↔ ∃ claim, Misshapen payload claim := by
  constructor
  · rintro ⟨e, he⟩
    obtain ⟨claim, hclaim, -⟩ := (ofPayload_eq_error_iff_misshapen hfinite).mp he
    exact ⟨claim, hclaim⟩
  · rintro ⟨claim, hclaim⟩
    obtain ⟨v, hv, hfits⟩ := (exists_not_fits_iff hfinite).mpr ⟨claim, rfl, hclaim⟩
    cases hread : ofPayload payload with
    | error e => exact ⟨e, rfl⟩
    | ok c => exact absurd ((ofPayload_eq_ok_iff.mp hread).1 _ v hv) hfits

/-- The claims of a payload are what its members stand for, the scopes apart. -/
theorem get?_eq_some_iff_of_ofPayload (h : ofPayload payload = .ok c) {name : String}
    {value : ClaimValue} :
    c.get? name = some value ↔ name ≠ RegisteredClaim.scope.name ∧
      ∃ v, payload.get? name = some v ∧ v.Denotes value := by
  obtain ⟨-, hget, -⟩ := ofPayload_eq_ok_iff.mp h
  rw [hget]
  split
  · next hscope => simp [hscope]
  · next hscope => simp [hscope, Json.denotes_iff, Option.bind_eq_some_iff]

/-- The scopes of a payload are what the member of that name grants. -/
theorem mem_scopes_iff_of_ofPayload (h : ofPayload payload = .ok c) {x : String} :
    x ∈ c.scopes ↔ ∃ v, payload.get? RegisteredClaim.scope.name = some v ∧ v.Grants x := by
  obtain ⟨hfits, -, hscopes⟩ := ofPayload_eq_ok_iff.mp h
  rw [hscopes]
  cases hv : payload.get? RegisteredClaim.scope.name with
  | none => simp
  | some v =>
    have hfit := hfits _ v hv
    rw [Fits] at hfit
    cases hvalue : ClaimValue.ofJson? v with
    | none =>
      rw [hvalue] at hfit
      cases hfit
    | some value => simp [Json.grants_iff (Json.denotes_iff.mpr hvalue), hvalue]

/-- A payload is not read just if a registered claim in it is not in its shape, and the first of
these in the order of their names is reported, whatever else is in the payload.  The claims that are
read are what the members stand for; other members are left out. -/
theorem ofPayload_decided (hfinite : FiniteNumbers payload) :
    ((∃ e, ofPayload payload = .error e) ↔ ∃ claim, Misshapen payload claim) ∧
    (∀ e, ofPayload payload = .error e ↔ ∃ claim, Misshapen payload claim ∧
      (∀ other, Misshapen payload other → claim.name ≤ other.name) ∧ e = claim.shapeError) ∧
    ∀ c, ofPayload payload = .ok c →
      (∀ name value, c.get? name = some value ↔ name ≠ RegisteredClaim.scope.name ∧
        ∃ v, payload.get? name = some v ∧ v.Denotes value) ∧
      ∀ x, x ∈ c.scopes ↔
        ∃ v, payload.get? RegisteredClaim.scope.name = some v ∧ v.Grants x :=
  ⟨exists_error_iff hfinite, fun _ ↦ ofPayload_eq_error_iff_misshapen hfinite, fun _ hread ↦
    ⟨fun _ _ ↦ get?_eq_some_iff_of_ofPayload hread, fun _ ↦ mem_scopes_iff_of_ofPayload hread⟩⟩

end

/-- A payload with three registered claims that are not in their shape, and with members that stand
for nothing before and between them. -/
def tangled : Dict Json :=
  .ofList [("sub", .bool true), ("admin", .null), ("exp", .string "soon"), ("aud", .string "api"),
    ("extra", .object [("exp", .null)]), ("iat", .ofInt (-1)), ("level", .ofInt 3)]

/-- The expiration time is the first of the three. -/
theorem ofPayload_decided_tangled :
    FiniteNumbers tangled ∧ Misshapen tangled .subject ∧ Misshapen tangled .issuedAt ∧
      ofPayload tangled = .error .invalidExpiration := by
  have hfinite : FiniteNumbers tangled := by
    intro name n h
    have hentry := Dict.mem_entries_iff.mpr h
    have hentries : tangled.entries = [("admin", .null), ("aud", .string "api"),
        ("exp", .string "soon"), ("extra", .object [("exp", .null)]), ("iat", .ofInt (-1)),
        ("level", .ofInt 3), ("sub", .bool true)] := by decide
    simp only [hentries, Json.ofInt, List.mem_cons, List.not_mem_nil, Prod.mk.injEq, reduceCtorEq,
      and_false, Json.number.injEq, or_false, false_or] at hentry
    rcases hentry with ⟨-, rfl⟩ | ⟨-, rfl⟩ <;> decide
  have hsubject : Misshapen tangled .subject := ⟨.bool true, by decide, by rintro ⟨s, ⟨⟩⟩⟩
  have hissued : Misshapen tangled .issuedAt := by
    refine ⟨.ofInt (-1), by decide, ?_⟩
    rintro ⟨n, hn, num, den, -, hsign, -⟩
    cases hn
    exact absurd hsign (by decide)
  have hexpires : Misshapen tangled .expirationTime :=
    ⟨.string "soon", by decide, by rintro ⟨n, ⟨⟩, -⟩⟩
  refine ⟨hfinite, hsubject, hissued, ((ofPayload_decided hfinite).2.1 _).mpr
    ⟨.expirationTime, hexpires, fun other hother ↦ ?_, rfl⟩⟩
  cases other with
  | audience =>
    obtain ⟨v, hv, hsuits⟩ := hother
    have hvalue : tangled.get? RegisteredClaim.audience.name = some (.string "api") := by decide
    obtain rfl := Option.some.inj (hv.symm.trans hvalue)
    exact absurd (.inl ⟨_, rfl⟩) hsuits
  | subject | issuer | expirationTime | notBefore | issuedAt | tokenId | scope => decide

end Claims

end BearerAuth
