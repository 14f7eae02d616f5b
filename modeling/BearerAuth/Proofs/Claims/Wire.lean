import BearerAuth.Proofs.Binary64
import BearerAuth.Proofs.Claims.Operations
import BearerAuth.Proofs.ScopeSet

/-!
# Claims on the wire

Claims are written as a payload and read from it again.  What comes back (`Claims.reread`) differs
from what was written in two ways only: zero has lost its sign, and a scope that is empty or holds a
space has become its parts.  As numbers the two zeros are equal, so claims whose scopes are plain
come back as equal claims (`sameAs_reread`).
-/

namespace BearerAuth

/-! ## Values -/

theorem Json.strings?_ofStrings (l : List String) : (Json.ofStrings l).strings? = some l := by
  simp only [Json.ofStrings, Json.strings?]
  induction l with
  | nil => rfl
  | cons s rest ih => simp [Json.string?, ih]

/-- The sign of a zero does not change the instant. -/
theorem Instant.ofNumericDate?_plain (x : Binary64) :
    Instant.ofNumericDate? x.plain = Instant.ofNumericDate? x := by
  match x with
  | .finite false 0 _ _ | .finite true 0 _ _ | .finite _ (_ + 1) _ _ | .infinite _ | .nan => rfl

namespace ClaimValue

/-- Whether two values are equal, numbers being compared as numbers. -/
def sameAs : ClaimValue → ClaimValue → Bool
  | .text s, .text t => s = t
  | .texts l, .texts m => l = m
  | .number x, .number y => x.sameAs y
  | _, _ => false

/-- The value, with zero in place of minus zero. -/
def plain : ClaimValue → ClaimValue
  | .number x => .number x.plain
  | v => v

/-- Whether a value, if it is a number, is a finite one. -/
def IsFinite : ClaimValue → Prop
  | .number x => x.isFinite = true
  | _ => True

theorem sameAs_plain {v : ClaimValue} (h : v.IsFinite) : v.plain.sameAs v = true := by
  cases v with
  | text s => simp [plain, sameAs]
  | texts l => simp [plain, sameAs]
  | number x =>
    refine Binary64.sameAs_plain fun hnan ↦ ?_
    simp [IsFinite, hnan, Binary64.isFinite] at h

theorem instant?_plain (v : ClaimValue) : v.plain.instant? = v.instant? := by
  cases v with
  | text s => rfl
  | texts l => rfl
  | number x => exact Instant.ofNumericDate?_plain x

/-- A whole number is written as such. -/
theorem toJson_number {x : Binary64} {n : Int} (hx : x.toInt? = some n) (hn : n.natAbs < 2 ^ 53) :
    (number x).toJson = .ofInt n := by
  rw [toJson, numberToJson, hx]
  exact if_pos hn

/-- A finite number is read back from its JSON value, the sign of a zero apart. -/
theorem ofJson?_numberToJson {x : Binary64} (h : x.isFinite = true) :
    ofJson? (numberToJson x) = some (.number x.plain) := by
  rw [numberToJson]
  cases hint : x.toInt? with
  | some n =>
    have hplain := Binary64.ofInt_of_toInt? hint
    simp only
    split
    · rw [Json.ofInt, ofJson?, Json.Number.toBinary64, hplain]
    · next hlarge =>
      -- the number is not minus zero, which is whole and small
      have hself : x.plain = x := by
        refine Binary64.plain_of_toInt?_ne fun hzero ↦ ?_
        rw [hint] at hzero
        cases hzero
        exact hlarge (by decide)
      rw [ofJson?, Json.Number.toBinary64, hself]
  | none =>
    have hself : x.plain = x := Binary64.plain_of_toInt?_ne (by simp [hint])
    simp only
    rw [if_pos h, ofJson?, Json.Number.toBinary64, hself]

/-- A value is read back from its JSON value, the sign of a zero apart. -/
theorem ofJson?_toJson {v : ClaimValue} (h : v.IsFinite) : ofJson? v.toJson = some v.plain := by
  cases v with
  | text s => rfl
  | texts l => simpa [ofJson?, toJson, plain, Json.ofStrings] using Json.strings?_ofStrings l
  | number x => exact ofJson?_numberToJson h

end ClaimValue

namespace Claims

theorem accepts_plain (name : String) (v : ClaimValue) : accepts name v.plain = accepts name v := by
  have hregistered (claim : RegisteredClaim) : claim.accepts v.plain = claim.accepts v := by
    cases v with
    | text s => rfl
    | texts l => rfl
    | number x =>
      cases claim <;>
        simp [RegisteredClaim.accepts, ClaimValue.plain, ClaimValue.instant?,
          Instant.ofNumericDate?_plain]
  unfold accepts
  cases RegisteredClaim.ofName? name with
  | some claim => exact hregistered claim
  | none =>
    cases v with
    | text s => rfl
    | texts l => rfl
    | number x => exact Binary64.isFinite_plain x

/-- A number that may stand under a name is finite. -/
theorem isFinite_of_accepts {name : String} {v : ClaimValue} (h : accepts name v = true) :
    v.IsFinite := by
  match v with
  | .text _ | .texts _ => trivial
  | .number x =>
    unfold accepts at h
    cases hname : RegisteredClaim.ofName? name with
    | none => simpa [hname, ClaimValue.IsFinite] using h
    | some claim =>
      rw [hname] at h
      match x with
      | .finite .. => rfl
      | .infinite _ | .nan =>
        cases claim <;>
          simp [RegisteredClaim.accepts, ClaimValue.instant?, Instant.ofNumericDate?,
            Binary64.magnitude] at h

/-! ## Claims -/

/-- Whether two sets of claims are equal, numbers being compared as numbers. -/
def SameAs (c d : Claims) : Prop :=
  c.scopes = d.scopes ∧
    ∀ name, Option.Rel (fun v w ↦ v.sameAs w = true) (c.get? name) (d.get? name)

/-- The claims that are read from the payload of some claims. -/
def reread (c : Claims) : Claims := ⟨c.values.map .plain, .parse c.scopes.toText⟩

theorem get?_reread (c : Claims) (name : String) :
    c.reread.get? name = (c.get? name).map .plain :=
  Dict.get?_map _ _ _

theorem scopes_reread (c : Claims) : c.reread.scopes = .parse c.scopes.toText := by
  rw [reread]

/-- What stands under a name in a payload. -/
theorem get?_toPayload (c : Claims) (name : String) :
    c.toPayload.get? name =
      if name = RegisteredClaim.scope.name ∧ c.scopes.isEmpty = false then
        some (.string c.scopes.toText)
      else (c.get? name).map ClaimValue.toJson := by
  rw [toPayload]
  cases c.scopes.isEmpty with
  | true => simp [Dict.get?_map, get?]
  | false => simp [Dict.get?_insert, Dict.get?_map, get?]

theorem WellFormed.get?_scope {c : Claims} (h : c.WellFormed) :
    c.get? RegisteredClaim.scope.name = none := by
  cases hscope : c.get? RegisteredClaim.scope.name with
  | none => rfl
  | some value => exact absurd rfl (h _ _ hscope).1

/-- The scopes that are read from a payload where nothing but their text was written under their
name. -/
theorem WellFormed.scopes_toPayload {c : Claims} (h : c.WellFormed) :
    (((c.toPayload.get? RegisteredClaim.scope.name).bind ClaimValue.ofJson?).map
      scopesOf).getD .empty = .parse c.scopes.toText := by
  rw [get?_toPayload]
  cases hempty : c.scopes.isEmpty with
  | true =>
    have hnil : c.scopes.toList = [] := by simpa [ScopeSet.isEmpty] using hempty
    simp only [h.get?_scope, Bool.true_eq_false, and_false, if_false, Option.map_none,
      Option.bind_none, Option.getD_none]
    simp [ScopeSet.toText, hnil, ScopeSet.parse, Text.split, List.intercalate, ScopeSet.ofList,
      ScopeSet.insertMany]
  | false => rfl

/-- The payload of well-formed claims is read, and as the claims that it was written from. -/
theorem ofPayload_toPayload {c : Claims} (h : c.WellFormed) :
    ofPayload c.toPayload = .ok c.reread := by
  have hread {name : String} {value : ClaimValue} (hvalue : c.get? name = some value) :
      ClaimValue.ofJson? value.toJson = some value.plain :=
    ClaimValue.ofJson?_toJson (isFinite_of_accepts (h _ _ hvalue).2)
  refine ofPayload_eq_ok_iff.mpr ⟨fun name v hv ↦ ?_, fun name ↦ ?_, ?_⟩
  · rw [get?_toPayload] at hv
    split at hv
    · next hscope =>
      obtain ⟨rfl, -⟩ := hscope
      cases hv
      rfl
    · obtain ⟨value, hvalue, rfl⟩ := Option.map_eq_some_iff.mp hv
      rw [Fits, hread hvalue]
      exact (accepts_plain _ _).trans (h _ _ hvalue).2
  · rw [get?_reread, get?_toPayload]
    split
    · next hscope => rw [hscope, h.get?_scope, Option.map_none]
    · next hscope =>
      rw [if_neg fun hand ↦ hscope hand.1]
      cases hvalue : c.get? name with
      | none => rfl
      | some value => exact (hread hvalue).symm
  · rw [scopes_reread, h.scopes_toPayload]

/-- Each value of well-formed claims is read back as an equal value. -/
theorem rel_get?_reread {c : Claims} (h : c.WellFormed) (name : String) :
    Option.Rel (fun v w ↦ v.sameAs w = true) (c.reread.get? name) (c.get? name) := by
  rw [get?_reread]
  cases hvalue : c.get? name with
  | none => exact .none
  | some value => exact .some (ClaimValue.sameAs_plain (isFinite_of_accepts (h _ _ hvalue).2))

/-- Well-formed claims are read back as equal claims just if their scopes are read back. -/
theorem sameAs_reread_iff {c : Claims} (h : c.WellFormed) :
    c.reread.SameAs c ↔ ∀ s ∈ c.scopes, s ≠ "" ∧ ' ' ∉ s.toList := by
  rw [SameAs, scopes_reread, ScopeSet.parse_toText_eq_iff]
  exact and_iff_left (rel_get?_reread h)

/-- Claims whose scopes are neither empty nor hold a space are read back as equal claims. -/
theorem sameAs_reread {c : Claims} (h : c.WellFormed)
    (hscopes : ∀ s ∈ c.scopes, s ≠ "" ∧ ' ' ∉ s.toList) : c.reread.SameAs c :=
  (sameAs_reread_iff h).mpr hscopes

/-- Dates are read back as they were written. -/
theorem getDate_reread (c : Claims) (name : String) : c.reread.getDate name = c.getDate name := by
  rw [getDate, getDate, get?_reread]
  cases c.get? name with
  | none => rfl
  | some value => simp only [Option.map_some, ClaimValue.instant?_plain]

/-! ## What comes back -/

/-- The payload of claims that callers can make is read, and it is known exactly what comes back:
each value as an equal one, and of each scope its parts.  So the claims themselves come back just if
no scope is empty or holds a space. -/
theorem Reachable.exists_ofPayload_toPayload {c : Claims} (h : c.Reachable) :
    ∃ d, Claims.ofPayload c.toPayload = .ok d ∧
      (∀ name, Option.Rel (fun v w ↦ v.sameAs w = true) (d.get? name) (c.get? name)) ∧
      (∀ x, x ∈ d.scopes ↔ ∃ s ∈ c.scopes, x ∈ ScopeSet.parse s) ∧
      (d.SameAs c ↔ ∀ s ∈ c.scopes, s ≠ "" ∧ ' ' ∉ s.toList) := by
  have hwell := h.wellFormed
  refine ⟨c.reread, Claims.ofPayload_toPayload hwell, rel_get?_reread hwell, fun x ↦ ?_,
    sameAs_reread_iff hwell⟩
  rw [scopes_reread, ScopeSet.mem_parse_toText]

/-- Claims with a half, with a whole number that is too large to be written as one, and with a scope
that is two other scopes in one. -/
def joined : Claims :=
  let ratio : Binary64 := .finite false (2 ^ 52) (-53) (by decide)
  let half := Operation.after .empty (.set "ratio" (.number ratio))
  let large := Operation.after half (.set "size" (.number (.ofInt (2 ^ 53))))
  Operation.after large (.withScopes ["read", "read write"])

/-- Both numbers come back and so does one of the scopes, but not the other. -/
theorem Reachable.exists_ofPayload_toPayload_joined :
    joined.Reachable ∧ ∃ d, Claims.ofPayload joined.toPayload = .ok d ∧
      (∀ name, Option.Rel (fun v w ↦ v.sameAs w = true) (d.get? name) (joined.get? name)) ∧
      "read" ∈ d.scopes ∧ "write" ∈ d.scopes ∧ "read write" ∉ d.scopes ∧ ¬d.SameAs joined := by
  have hreachable : joined.Reachable := by
    unfold joined
    exact .after (.withScopes _) (.after (.set "size" _) (.after (.set "ratio" _) .empty))
  have hscope : "read write" ∈ joined.scopes := by decide +kernel
  obtain ⟨d, hd, hvalues, hscopes, hsame⟩ := Reachable.exists_ofPayload_toPayload hreachable
  refine ⟨hreachable, d, hd, hvalues, ?_, ?_, ?_, ?_⟩
  · exact (hscopes _).mpr ⟨_, hscope, by decide +kernel⟩
  · exact (hscopes _).mpr ⟨_, hscope, by decide +kernel⟩
  · intro h
    obtain ⟨s, -, hs⟩ := (hscopes _).mp h
    exact absurd (ScopeSet.plain_of_mem_parse hs).2 (by decide)
  · exact fun h ↦ absurd (hsame.mp h _ hscope).2 (by decide)

end Claims

end BearerAuth
