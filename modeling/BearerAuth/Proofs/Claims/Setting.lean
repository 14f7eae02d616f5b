import BearerAuth.Proofs.Claims.Operations
import BearerAuth.Proofs.Claims.Projection

/-!
# Setting claims by their names

The name of a claim decides which values may stand under it (`Settable`), what is reported of the
others (`refusal`), and whether a value goes to the values or to the scopes (`place`).  What the
claims were before has no say in any of this.  So in a run of settings only the last accepted one of
each name counts (`get?_setAll`, `scopes_setAll`), and settings of different names may be done in
any order (`setAll_congr`).
-/

namespace BearerAuth

/-! ## Which values may be set -/

namespace RegisteredClaim

/-- The shape that a registered claim asks a value for. -/
def Asks : RegisteredClaim → ClaimValue → Prop
  | subject, v | issuer, v | tokenId, v => ∃ s, v = .text s
  | audience, v | scope, v => (∃ s, v = .text s) ∨ ∃ l, v = .texts l
  | expirationTime, v | notBefore, v | issuedAt, v => ∃ x, v = .number x ∧ Instant.IsDate x

/-- The values that a registered claim accepts are those of its shape. -/
theorem accepts_iff_asks {claim : RegisteredClaim} {v : ClaimValue} :
    claim.accepts v = true ↔ claim.Asks v := by
  match claim with
  | .subject | .issuer | .tokenId => exact accepts_text_iff (by decide)
  | .audience => exact accepts_audience_iff
  | .scope => cases v <;> simp [accepts, Asks]
  | .expirationTime | .notBefore | .issuedAt =>
    rw [accepts_date_iff (by decide)]
    simp only [Asks, exists_and_left, Instant.exists_ofNumericDate?_iff]

end RegisteredClaim

namespace Claims

variable {c d : Claims} {name other : String} {value : ClaimValue}

/-- Whether a value may stand under a name. -/
structure Settable (name : String) (value : ClaimValue) : Prop where
  /-- Under the name of a registered claim it has the shape of this claim. -/
  shape : ∀ claim : RegisteredClaim, claim.name = name → claim.Asks value
  /-- If it is a number, it is a finite one. -/
  finite : ∀ x, value = .number x → x.isFinite = true

/-- The values that are accepted under a name are those that may stand there. -/
theorem accepts_iff_settable : accepts name value = true ↔ Settable name value := by
  constructor
  · intro h
    refine ⟨?_, ?_⟩
    · rintro claim rfl
      rw [accepts_name] at h
      exact RegisteredClaim.accepts_iff_asks.mp h
    · rintro x rfl
      exact isFinite_of_accepts h
  · intro h
    cases hname : RegisteredClaim.ofName? name with
    | some claim =>
      obtain rfl := RegisteredClaim.name_of_ofName? hname
      rw [accepts_name]
      exact RegisteredClaim.accepts_iff_asks.mpr (h.shape claim rfl)
    | none =>
      unfold accepts
      rw [hname]
      cases value with
      | text s => rfl
      | texts l => rfl
      | number x => exact h.finite x rfl

/-- What is reported of a value that may not stand under a name. -/
def refusal (name : String) : AuthError :=
  let reports : List (String × AuthError) :=
    [("sub", .invalidSubject), ("iss", .invalidIssuer), ("aud", .invalidAudience),
      ("exp", .invalidExpiration), ("nbf", .invalidNotBefore), ("iat", .invalidIssuedAt)]
  (reports.lookup name).getD .invalidClaims

/-- Names without an error of their own have that of all claims. -/
theorem shapeError_eq_refusal (name : String) : shapeError name = refusal name := by
  cases hname : RegisteredClaim.ofName? name with
  | some claim =>
    obtain rfl := RegisteredClaim.name_of_ofName? hname
    rw [shapeError_name]
    cases claim <;> rfl
  | none =>
    have hother (claim : RegisteredClaim) : (name == claim.name) = false := by
      refine beq_eq_false_iff_ne.mpr ?_
      rintro rfl
      rw [RegisteredClaim.ofName?_name] at hname
      cases hname
    have hsubject := hother .subject
    have hissuer := hother .issuer
    have haudience := hother .audience
    have hexpires := hother .expirationTime
    have hbegins := hother .notBefore
    have hissued := hother .issuedAt
    simp only [RegisteredClaim.name] at *
    simp [shapeError, refusal, List.lookup_cons, *]

theorem after_set (c : Claims) (name : String) (value : ClaimValue) :
    Operation.after c (.set name value) =
      if accepts name value then c.place name value else c := by
  rw [Operation.after, Operation.perform, run_set]
  cases accepts name value <;> rfl

/-- What a caller is told who sets a value. -/
def reply (c : Claims) (name : String) (value : ClaimValue) : Except AuthError Unit :=
  match (set name value).run c with
  | .ok _ _ => .ok ()
  | .error e _ => .error e

/-- What a caller is told does not depend on the claims. -/
theorem reply_eq (c d : Claims) (name : String) (value : ClaimValue) :
    c.reply name value = d.reply name value := by
  rw [reply, reply, run_set, run_set]
  cases accepts name value <;> rfl

/-! ## Runs of settings -/

/-- The claims after some settings, one after the other; those that are refused change nothing. -/
def setAll (c : Claims) (settings : List (String × ClaimValue)) : Claims :=
  settings.foldl (fun c s ↦ Operation.after c (.set s.1 s.2)) c

/-- The value of the last setting of a name that is accepted. -/
def lastSet? (name : String) (settings : List (String × ClaimValue)) : Option ClaimValue :=
  (settings.reverse.find? fun s ↦ s.1 = name && accepts s.1 s.2).map Prod.snd

theorem lastSet?_cons (name : String) (s : String × ClaimValue)
    (settings : List (String × ClaimValue)) :
    lastSet? name (s :: settings) = (lastSet? name settings).or
      (if s.1 = name ∧ accepts s.1 s.2 = true then some s.2 else none) := by
  rw [lastSet?, lastSet?, List.reverse_cons, List.find?_append]
  cases settings.reverse.find? _ with
  | some _ => rfl
  | none => simp only [List.find?_singleton, Bool.and_eq_true, decide_eq_true_eq]; split <;> rfl

/-- A claim is what was last set under its name, or what it was before. -/
theorem get?_setAll (c : Claims) (settings : List (String × ClaimValue)) (name : String) :
    (c.setAll settings).get? name =
      if name = RegisteredClaim.scope.name then c.get? name
      else (lastSet? name settings).or (c.get? name) := by
  induction settings generalizing c with
  | nil => simp [setAll, lastSet?]
  | cons s rest ih =>
    obtain ⟨n, v⟩ := s
    have hstep : c.setAll ((n, v) :: rest) = (Operation.after c (.set n v)).setAll rest := rfl
    rw [hstep, ih, after_set, lastSet?_cons, Option.or_assoc]
    cases accepts n v with
    | false => simp
    | true =>
      simp only [get?_place, if_true, and_true]
      by_cases hname : n = name
      · subst hname
        split
        · next hscope => simp [hscope]
        · next hscope => simp [hscope]
      · simp [hname, Ne.symm hname]

/-- The scopes are those that were last set, or what they were before. -/
theorem scopes_setAll (c : Claims) (settings : List (String × ClaimValue)) :
    (c.setAll settings).scopes =
      ((lastSet? RegisteredClaim.scope.name settings).map scopesOf).getD c.scopes := by
  induction settings generalizing c with
  | nil => rfl
  | cons s rest ih =>
    obtain ⟨n, v⟩ := s
    have hstep : c.setAll ((n, v) :: rest) = (Operation.after c (.set n v)).setAll rest := rfl
    rw [hstep, ih, after_set, lastSet?_cons]
    cases lastSet? RegisteredClaim.scope.name rest with
    | some _ => rfl
    | none =>
      cases accepts n v with
      | false => simp
      | true =>
        simp only [scopes_place, if_true, and_true]
        split <;> rfl

/-- Runs that agree in the last setting of each name lead to the same claims. -/
theorem setAll_congr {settings settings' : List (String × ClaimValue)}
    (h : ∀ name, lastSet? name settings = lastSet? name settings') (c : Claims) :
    c.setAll settings = c.setAll settings' := by
  refine Claims.ext (Dict.ext_get? fun name ↦ ?_) ?_
  · have hget := get?_setAll c settings name
    rw [h, ← get?_setAll c settings' name] at hget
    exact hget
  · rw [scopes_setAll, scopes_setAll, h]

/-! ## What setting a claim does -/

/-- How claims that a value was set in differ from what they were. -/
structure Replaced (name : String) (value : ClaimValue) (c d : Claims) : Prop where
  /-- The value stands under its name, unless this is the name of the scopes. -/
  stands : name ≠ RegisteredClaim.scope.name → d.get? name = some value
  /-- No other claim changes, and none at all under the name of the scopes. -/
  others : ∀ other, other ≠ name ∨ name = RegisteredClaim.scope.name → d.get? other = c.get? other
  /-- Under the name of the scopes, the scopes are those that the value grants, and no others. -/
  granted : name = RegisteredClaim.scope.name → ∀ x, x ∈ d.scopes ↔ value.toJson.Grants x
  /-- Under any other name the scopes stay. -/
  scopes : name ≠ RegisteredClaim.scope.name → d.scopes = c.scopes

/-- A value that is accepted replaces what its name stands for, and nothing else. -/
theorem replaced_place (c : Claims) (h : accepts name value = true) :
    Replaced name value c (c.place name value) where
  stands hscope := by rw [get?_place, if_pos ⟨rfl, hscope⟩]
  others other hother := by
    rw [get?_place, if_neg]
    rintro ⟨rfl, hscope⟩
    exact hother.elim (absurd rfl) hscope
  granted := by
    rintro rfl x
    rw [scopes_place, if_pos rfl]
    refine (Json.grants_iff ?_).symm
    cases value with
    | text s => exact .text s
    | texts l => exact .texts l
    | number x => rw [accepts_name] at h; cases h
  scopes hscope := by rw [scopes_place, if_neg hscope]

/-- Setting a claim succeeds just if the value may stand under the name.  If it fails, the error is
that of the name, and the claims are left as they were.  If it succeeds, nothing has changed but
what the name stands for.  A second setting of a name makes the first forgotten, and settings of
different names may change places: the claims are the same then, and so is what is reported of each.
-/
theorem set_decided (c : Claims) (name : String) (value : ClaimValue) :
    ((∃ d, (set name value).run c = .ok () d) ↔ Settable name value) ∧
    (∀ e d, (set name value).run c = .error e d → e = refusal name ∧ d = c) ∧
    (∀ d, (set name value).run c = .ok () d → Replaced name value c d) ∧
    (∀ w, Settable name w → c.setAll [(name, value), (name, w)] = c.setAll [(name, w)]) ∧
    ∀ other w, other ≠ name →
      c.setAll [(name, value), (other, w)] = c.setAll [(other, w), (name, value)] ∧
      (Operation.after c (.set name value)).reply other w = c.reply other w ∧
      (Operation.after c (.set other w)).reply name value = c.reply name value := by
  refine ⟨?_, fun e d he ↦ ?_, fun d hd ↦ ?_, fun w hw ↦ ?_, fun other w hother ↦ ?_⟩
  · simp only [run_set_eq_ok_iff, ← accepts_iff_settable, exists_and_left, exists_eq, and_true]
  · obtain ⟨-, rfl, hsame⟩ := run_set_eq_error_iff.mp he
    exact ⟨shapeError_eq_refusal name, hsame⟩
  · obtain ⟨hacc, rfl⟩ := run_set_eq_ok_iff.mp hd
    exact replaced_place c hacc
  · refine setAll_congr (fun n ↦ ?_) c
    by_cases hn : name = n
    · simp [lastSet?, hn, hn ▸ accepts_iff_settable.mpr hw]
    · simp [lastSet?, hn]
  · refine ⟨setAll_congr (fun n ↦ ?_) c, reply_eq _ _ _ _, reply_eq _ _ _ _⟩
    rw [lastSet?_cons, lastSet?_cons, lastSet?_cons, lastSet?_cons]
    -- a name is that of the one setting or of the other
    by_cases hn : name = n
    · simp [hn, lastSet?, hn ▸ hother]
    · simp [hn, lastSet?]

/-- Claims of someone who may read. -/
def reader : Claims :=
  Operation.after (Operation.after .empty (.withSubject "ann")) (.withScope "read")

/-- An expiration time that is no date is refused, and the claims stay.  New scopes replace the old
one, and it does not matter whether the subject is set before them or after them. -/
theorem set_decided_reader :
    (set "exp" (.text "soon")).run reader = .error .invalidExpiration reader ∧
      (∃ d, (set "scope" (.text "b  a")).run reader = .ok () d ∧ d.hasScope "a" = true ∧
        d.hasScope "read" = false ∧ d.get? "sub" = reader.get? "sub") ∧
      reader.setAll [("scope", .text "b  a"), ("sub", .text "eve")] =
        reader.setAll [("sub", .text "eve"), ("scope", .text "b  a")] := by
  have hscopes := set_decided reader "scope" (.text "b  a")
  refine ⟨?_, ?_, ?_⟩
  · cases hsoon : (set "exp" (.text "soon")).run reader with
    | ok u d => exact absurd (run_set_eq_ok_iff.mp hsoon).1 (by decide)
    | error e d =>
      obtain ⟨rfl, rfl⟩ := (set_decided reader "exp" (.text "soon")).2.1 e d hsoon
      rfl
  · obtain ⟨d, hd⟩ := hscopes.1.mpr (accepts_iff_settable.mp (by decide))
    have hreplaced := hscopes.2.2.1 d hd
    refine ⟨d, hd, ?_, ?_, hreplaced.others "sub" (.inr rfl)⟩
    · exact decide_eq_true ((hreplaced.granted rfl "a").mpr (.part (by decide) (by decide)))
    · refine decide_eq_false fun hread ↦ ?_
      rcases (hreplaced.granted rfl "read").mp hread with ⟨-, hpart⟩
      exact absurd hpart (by decide)
  · exact (hscopes.2.2.2.2 "sub" (.text "eve") (by decide)).1

end Claims

end BearerAuth
