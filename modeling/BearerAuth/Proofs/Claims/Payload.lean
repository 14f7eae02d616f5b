import BearerAuth.Claims.Payload
import BearerAuth.Proofs.Dict

/-!
# Payloads by their members

Claims are read from a payload member by member.  As no name occurs twice, the order of the members
only decides which fault is reported: `ofPayload_eq_ok_iff` says when a payload is read, and what
the claims are, by what is found under each name.
-/

namespace BearerAuth.Claims

/-- A registered name asks for the shape of its claim. -/
@[simp] theorem accepts_name (claim : RegisteredClaim) (value : ClaimValue) :
    accepts claim.name value = claim.accepts value := by
  simp [accepts]

/-- Whether a member of a payload can be read: what stands for a claim has to be accepted under its
name, and what stands for none may only stand under a name that is not registered. -/
def Fits (name : String) (v : Json) : Prop :=
  match ClaimValue.ofJson? v with
  | some value => accepts name value = true
  | none => RegisteredClaim.ofName? name = none

/-- The claims with a member put in that can be read. -/
def absorb (c : Claims) (name : String) (v : Json) : Claims :=
  match ClaimValue.ofJson? v with
  | some value => c.place name value
  | none => c

/-! ## One member -/

theorem run_addMember_eq_ok_iff {c d : Claims} {name : String} {v : Json} :
    (addMember name v).run c = .ok () d ↔ Fits name v ∧ d = c.absorb name v := by
  rw [addMember, Fits, absorb]
  cases ClaimValue.ofJson? v with
  | some value => exact run_set_eq_ok_iff
  | none => cases RegisteredClaim.ofName? name <;> simp [eq_comm]

/-- A member that does not fit is reported by its name. -/
theorem run_addMember_eq_error_iff {c d : Claims} {name : String} {v : Json} {e : AuthError} :
    (addMember name v).run c = .error e d ↔ ¬Fits name v ∧ e = shapeError name ∧ d = c := by
  rw [addMember, Fits]
  cases ClaimValue.ofJson? v with
  | some value => exact run_set_eq_error_iff
  | none =>
    rw [shapeError]
    cases RegisteredClaim.ofName? name <;> simp [eq_comm]

/-- A member puts its claim under its name, unless that is the name of the scopes. -/
theorem get?_absorb (c : Claims) (name x : String) (v : Json) :
    (c.absorb name v).get? x =
      if x = name ∧ name ≠ RegisteredClaim.scope.name then (ClaimValue.ofJson? v).or (c.get? x)
      else c.get? x := by
  rw [absorb]
  cases ClaimValue.ofJson? v with
  | some value => exact get?_place c name x value
  | none => simp

/-- The member of the scopes replaces all scopes, and no other member changes them. -/
theorem scopes_absorb (c : Claims) (name : String) (v : Json) :
    (c.absorb name v).scopes =
      if name = RegisteredClaim.scope.name then
        ((ClaimValue.ofJson? v).map scopesOf).getD c.scopes
      else c.scopes := by
  rw [absorb]
  cases ClaimValue.ofJson? v with
  | some value => exact scopes_place c name value
  | none => simp

/-! ## All members -/

/-- The claims with members put in that can be read. -/
def absorbAll (c : Claims) (l : List (String × Json)) : Claims :=
  l.foldl (fun c p ↦ c.absorb p.1 p.2) c

theorem run_addMembers_eq_ok_iff {c d : Claims} {l : List (String × Json)} :
    (addMembers l).run c = .ok () d ↔ (∀ p ∈ l, Fits p.1 p.2) ∧ d = c.absorbAll l := by
  induction l generalizing c with
  | nil => simp [addMembers, absorbAll, eq_comm]
  | cons p rest ih =>
    obtain ⟨name, v⟩ := p
    rw [addMembers, EStateM.run_bind]
    cases hstep : (addMember name v).run c with
    | ok u e =>
      obtain ⟨hfits, rfl⟩ := run_addMember_eq_ok_iff.mp hstep
      simp only [ih, List.forall_mem_cons, hfits, true_and]
      rfl
    | error e d' =>
      obtain ⟨hfits, -⟩ := run_addMember_eq_error_iff.mp hstep
      simp [hfits]

/-- After all members are in, what is under a name is what its member stands for. -/
theorem get?_absorbAll {l : List (String × Json)} (hl : (l.map Prod.fst).Pairwise (· < ·))
    (c : Claims) (x : String) :
    (c.absorbAll l).get? x =
      if x = RegisteredClaim.scope.name then c.get? x
      else ((l.lookup x).bind ClaimValue.ofJson?).or (c.get? x) := by
  induction l generalizing c with
  | nil => simp [absorbAll]
  | cons p rest ih =>
    obtain ⟨name, v⟩ := p
    simp only [List.map_cons, List.pairwise_cons] at hl
    have hstep : c.absorbAll ((name, v) :: rest) = (c.absorb name v).absorbAll rest := rfl
    rw [hstep, ih hl.2, get?_absorb]
    by_cases hx : x = name
    · subst hx
      by_cases hscope : x = RegisteredClaim.scope.name <;>
        simp [hscope, Dict.lookup_of_lt hl.1]
    · simp [hx, List.lookup_cons, beq_eq_false_iff_ne.mpr hx]

/-- After all members are in, the scopes are what their member stands for. -/
theorem scopes_absorbAll {l : List (String × Json)} (hl : (l.map Prod.fst).Pairwise (· < ·))
    (c : Claims) :
    (c.absorbAll l).scopes =
      (((l.lookup RegisteredClaim.scope.name).bind ClaimValue.ofJson?).map scopesOf).getD
        c.scopes := by
  induction l generalizing c with
  | nil => rfl
  | cons p rest ih =>
    obtain ⟨name, v⟩ := p
    simp only [List.map_cons, List.pairwise_cons] at hl
    have hstep : c.absorbAll ((name, v) :: rest) = (c.absorb name v).absorbAll rest := rfl
    rw [hstep, ih hl.2, scopes_absorb]
    by_cases hname : name = RegisteredClaim.scope.name
    · subst hname
      simp [Dict.lookup_of_lt hl.1]
    · simp [hname, List.lookup_cons, beq_eq_false_iff_ne.mpr (Ne.symm hname)]

/-- A payload is read exactly when each of its members can be read.  Then each claim is what stands
under its name, and the scopes are what stands under theirs. -/
theorem ofPayload_eq_ok_iff {payload : Dict Json} {c : Claims} :
    ofPayload payload = .ok c ↔
      (∀ name v, payload.get? name = some v → Fits name v) ∧
      (∀ name, c.get? name = if name = RegisteredClaim.scope.name then none
        else (payload.get? name).bind ClaimValue.ofJson?) ∧
      c.scopes = (((payload.get? RegisteredClaim.scope.name).bind ClaimValue.ofJson?).map
        scopesOf).getD .empty := by
  have hget (name : String) : (empty.absorbAll payload.entries).get? name =
      if name = RegisteredClaim.scope.name then none
      else (payload.get? name).bind ClaimValue.ofJson? := by
    have hempty : empty.get? name = none := rfl
    rw [get?_absorbAll payload.sorted, hempty, Option.or_none, Dict.get?]
  have hscopes := scopes_absorbAll payload.sorted empty
  rw [ofPayload, attempt_eq_ok_iff, run_addMembers_eq_ok_iff]
  refine and_congr ⟨fun h name v hv ↦ h _ (Dict.mem_entries_iff.mpr hv), fun h p hp ↦
    h _ _ (Dict.mem_entries_iff.mp hp)⟩ ⟨?_, ?_⟩
  · rintro rfl
    exact ⟨hget, hscopes⟩
  · rintro ⟨hvalues, hs⟩
    refine Claims.ext (Dict.ext_get? fun name ↦ ?_) (hs.trans hscopes.symm)
    exact (hvalues name).trans (hget name).symm

/-! ## Dates -/

/-- Only a number is read as a number. -/
theorem eq_number_of_ofJson? {v : Json} {x : Binary64}
    (h : ClaimValue.ofJson? v = some (.number x)) : ∃ n, v = .number n ∧ n.toBinary64 = x := by
  cases v with
  | number n =>
    cases h
    exact ⟨n, rfl, rfl⟩
  | array items =>
    obtain ⟨l, -, hl⟩ := Option.map_eq_some_iff.mp h
    cases hl
  | null | bool _ | string _ | object _ => cases h

/-- A date in a payload that is read is a number that stands for an instant, and the claims have
that instant. -/
theorem exists_instant_of_ofPayload {payload : Dict Json} {c : Claims} {claim : RegisteredClaim}
    {v : Json} (h : ofPayload payload = .ok c) (hdate : claim ∈ RegisteredClaim.dates)
    (hv : payload.get? claim.name = some v) :
    ∃ n t, v = .number n ∧ Instant.ofNumericDate? n.toBinary64 = some t ∧
      c.getDate claim.name = .ok (some t) := by
  obtain ⟨hfits, hget, -⟩ := ofPayload_eq_ok_iff.mp h
  have hname : ∀ claim ∈ RegisteredClaim.dates, claim.name ≠ RegisteredClaim.scope.name := by
    decide
  have hfit := hfits _ _ hv
  rw [Fits] at hfit
  split at hfit
  · next value hvalue =>
    rw [accepts_name] at hfit
    obtain ⟨x, t, rfl, ht⟩ := (RegisteredClaim.accepts_date_iff hdate).mp hfit
    obtain ⟨n, rfl, rfl⟩ := eq_number_of_ofJson? hvalue
    have hclaim : c.get? claim.name = some (.number n.toBinary64) := by
      rw [hget, if_neg (hname claim hdate), hv, Option.bind_some, hvalue]
    refine ⟨n, t, rfl, ht, ?_⟩
    rw [getDate, hclaim]
    simp only [ClaimValue.instant?, ht]
  · rw [RegisteredClaim.ofName?_name] at hfit
    cases hfit

end BearerAuth.Claims
