import BearerAuth.Json.Reader
import BearerAuth.Proofs.Binary64
import BearerAuth.Proofs.Dict

/-!
# Numbers that are read

No text stands for a number that is infinite or no number: a numeral that is too large has no value
at all (`Numeral.isFinite_value`).  So all numbers in a dictionary that is read from a text are
finite (`Source.isFinite_of_toDict?`).
-/

namespace BearerAuth.Json

/-! ## Numerals -/

namespace Numeral

/-- Digits are gathered as long as there is room for them. -/
theorem gather_le {n : Nat} (h : n ≤ maxGathered) (ds : List Nat) :
    (gather n ds).1 ≤ maxGathered := by
  induction ds generalizing n with
  | nil => exact h
  | cons d rest ih =>
    rw [gather]
    split
    · next hroom => exact ih hroom
    · exact h

/-- The powers of ten that are used for scaling are not above the last number. -/
theorem isFinite_round_ten_pow {k : Nat} (h : k ≤ maxPower) :
    (Binary64.round false (10 ^ k) 1).isFinite = true := by
  refine Binary64.isFinite_round false one_pos ?_
  have hlast : k ≤ 44 * 7 := h
  -- a power of ten a little above a power of two leaves room for being raised to the seventh
  have hroom : (10 : ℚ) ^ 44 ≤ 9 * 2 ^ (143 : Int) := by norm_num
  calc ((10 ^ k : Nat) : ℚ) / (1 : Nat) = 10 ^ k := by rw [Nat.cast_one, div_one]; norm_cast
    _ ≤ 10 ^ (44 * 7) := pow_le_pow_right₀ (by norm_num) hlast
    _ = (10 ^ 44) ^ 7 := pow_mul 10 44 7
    _ ≤ (9 * 2 ^ (143 : Int)) ^ 7 := by gcongr
    _ = 9 ^ 7 * 2 ^ (30 : Int) * 2 ^ (971 : Int) := by
      rw [mul_pow, ← zpow_natCast (2 ^ (143 : Int)), ← zpow_mul, mul_assoc, ← zpow_add₀ two_ne_zero]
      norm_num only
    _ ≤ (2 ^ 53 - 1) * 2 ^ (971 : Int) := by gcongr; norm_num

/-- They are above zero too. -/
theorem powerOfTen_pos {k : Nat} (h : k ≤ maxPower) : 0 < powerOfTen k := by
  obtain ⟨⟨n, d⟩, hround⟩ := Binary64.isFinite_iff.mp (isFinite_round_ten_pow h)
  rw [powerOfTen, hround]
  exact Nat.div_pos (Binary64.le_of_magnitude_round (by positivity) hround)
    (Binary64.pos_of_magnitude hround)

/-- Scaling a finite number leaves it finite, or has no result. -/
theorem isFinite_scaleByTen {x y : Binary64} {exponent : Int} (hx : x.isFinite = true)
    (h : scaleByTen x exponent = some y) : y.isFinite = true := by
  fun_induction scaleByTen x exponent with
  | case1 => cases h; exact hx
  | case2 x exponent _ _ _ z hz => exact Option.some.inj h ▸ hz
  | case3 => cases h
  | case4 => cases h
  | case5 x exponent _ _ hsmall =>
    cases h
    exact Binary64.isFinite_scale_one hx (powerOfTen_pos (by omega))
  | case6 x exponent _ _ _ ih =>
    exact ih (Binary64.isFinite_scale_one hx (powerOfTen_pos le_rfl)) h

/-- A whole number that fits 64 bits is rounded to a finite number. -/
theorem isFinite_round_of_le (negative : Bool) {n : Nat} (h : n ≤ maxGathered) :
    (Binary64.round negative n 1).isFinite = true := by
  refine Binary64.isFinite_round negative one_pos ?_
  calc (n : ℚ) / (1 : Nat) = n := by rw [Nat.cast_one, div_one]
    _ ≤ 2 ^ (64 : Int) := by exact_mod_cast h.trans (by decide)
    _ ≤ 2 ^ (971 : Int) := zpow_le_zpow_right₀ one_le_two (by decide)
    _ ≤ (2 ^ 53 - 1) * 2 ^ (971 : Int) := le_mul_of_one_le_left (by positivity) (by norm_num)

/-- The magnitude of a numeral is finite. -/
theorem isFinite_floatMagnitude {m : Numeral} {x : Binary64} (h : m.floatMagnitude = some x) :
    x.isFinite = true := by
  have hgathered := gather_le (gather_le (Nat.zero_le _) m.whole) (m.fraction.getD [])
  have hround := isFinite_round_of_le false hgathered
  simp only [floatMagnitude] at h
  split at h
  · exact isFinite_scaleByTen hround h
  · split at h
    · exact isFinite_scaleByTen hround h
    · split at h
      · cases h
        rfl
      · cases h

/-- The value of a numeral is finite. -/
theorem isFinite_value {m : Numeral} {n : Number} (h : m.value = some n) :
    n.toBinary64.isFinite = true := by
  simp only [value] at h
  generalize hfloat : (m.floatMagnitude.map fun x ↦
    Number.float (if m.negative then x.negate else x)) = float at h
  have hrounded (h : float = some n) : n.toBinary64.isFinite = true := by
    rw [← hfloat] at h
    obtain ⟨x, hx, rfl⟩ := Option.map_eq_some_iff.mp h
    have hfinite := isFinite_floatMagnitude hx
    rw [Number.toBinary64]
    split
    · rwa [Binary64.isFinite_negate]
    · exact hfinite
  split at h
  · split at h
    · split at h
      · next hfits =>
        cases h
        refine isFinite_round_of_le _ ?_
        rw [Int.natAbs_neg, Int.natAbs_natCast]
        exact hfits.2.trans (by decide)
      · exact hrounded h
    · split at h
      · next hfits =>
        cases h
        exact isFinite_round_of_le _ hfits
      · exact hrounded h
  · exact hrounded h

end Numeral

/-! ## Texts -/

/-- A number that is read has the value of a numeral, and an object has the members that are read
up to its closing bracket. -/
theorem readValue_cases {k : Coding} {fuel : Nat} {cs rest : List Char} {s : Source}
    (h : readValue k fuel cs = some (s, rest)) :
    (∀ n, s = .number n → ∃ m : Numeral, m.value = n) ∧
      ∀ members, s = .object members →
        members = [] ∨ ∃ fuel cs, readMembers k fuel cs = some (members, rest) := by
  cases fuel with
  | zero => cases h
  | succ fuel =>
    rw [readValue] at h
    split at h
    · split at h
      · cases h
        refine ⟨by rintro _ ⟨⟩, ?_⟩
        rintro _ ⟨⟩
        exact .inl rfl
      · obtain ⟨_, hread, h⟩ := Option.map_eq_some_iff.mp h
        cases h
        refine ⟨by rintro _ ⟨⟩, ?_⟩
        rintro _ ⟨⟩
        exact .inr ⟨_, _, hread⟩
    · split at h
      · cases h
        constructor <;> rintro _ ⟨⟩
      · obtain ⟨_, -, h⟩ := Option.map_eq_some_iff.mp h
        cases h
        constructor <;> rintro _ ⟨⟩
    iterate 4
      · obtain ⟨_, -, h⟩ := Option.map_eq_some_iff.mp h
        cases h
        constructor <;> rintro _ ⟨⟩
    · obtain ⟨⟨m, _⟩, -, h⟩ := Option.map_eq_some_iff.mp h
      cases h
      refine ⟨?_, by rintro _ ⟨⟩⟩
      rintro _ ⟨⟩
      exact ⟨m, rfl⟩

/-- The numbers among the members of an object are finite. -/
theorem isFinite_of_mem_readMembers {k : Coding} {fuel : Nat} {cs rest : List Char}
    {members : List (Option String × Source)} (h : readMembers k fuel cs = some (members, rest))
    {name : Option String} {n : Number} (hmem : (name, .number (some n)) ∈ members) :
    n.toBinary64.isFinite = true := by
  induction fuel generalizing cs members rest with
  | zero => cases h
  | succ fuel ih =>
    rw [readMembers] at h
    split at h
    case h_2 => cases h
    obtain ⟨⟨key, afterName⟩, -, h⟩ := Option.bind_eq_some_iff.mp h
    dsimp only at h
    split at h
    case h_2 => cases h
    obtain ⟨afterColon, -, h⟩ := Option.bind_eq_some_iff.mp h
    obtain ⟨⟨value, afterValue⟩, hvalue, h⟩ := Option.bind_eq_some_iff.mp h
    have hfirst : ((name, Source.number (some n)) : Option String × Source) = (key, value) →
        n.toBinary64.isFinite = true := by
      rintro ⟨⟩
      obtain ⟨m, hm⟩ := (readValue_cases hvalue).1 _ rfl
      exact Numeral.isFinite_value hm
    dsimp only at h
    split at h
    · obtain ⟨⟨others, last⟩, hothers, h⟩ := Option.bind_eq_some_iff.mp h
      cases h
      rcases List.mem_cons.mp hmem with hmem | hmem
      · exact hfirst hmem
      · exact ih hothers hmem
    · cases h
      exact hfirst (List.mem_singleton.mp hmem)
    · cases h

/-- The numbers among the members of a text that is one object are finite. -/
theorem isFinite_of_mem_ofText? {text : String} {members : List (Option String × Source)}
    (h : Source.ofText? text = some (.object members)) {name : Option String} {n : Number}
    (hmem : (name, .number (some n)) ∈ members) : n.toBinary64.isFinite = true := by
  rw [Source.ofText?, readWhole] at h
  split at h
  · next s rest hread =>
    obtain ⟨-, hs⟩ := Option.ite_none_right_eq_some.mp h
    rcases (readValue_cases hread).2 _ (Option.some.inj hs) with rfl | ⟨fuel, cs, hmembers⟩
    · cases hmem
    · exact isFinite_of_mem_readMembers hmembers hmem
  · cases h

/-- Only a number is read as a number. -/
theorem eq_number_of_toJsonAt {depth : Nat} {s : Source} {n : Number}
    (h : Source.toJsonAt depth s = some (.number n)) : s = .number (some n) := by
  cases s with
  | number m =>
    obtain ⟨_, rfl, h⟩ := Option.map_eq_some_iff.mp h
    cases h
    rfl
  | string s =>
    obtain ⟨_, -, h⟩ := Option.map_eq_some_iff.mp h
    cases h
  | array items | object members =>
    cases depth with
    | zero => cases h
    | succ depth =>
      obtain ⟨_, -, h⟩ := Option.map_eq_some_iff.mp h
      cases h
  | null | bool _ => cases h

/-- A number that a member is read as stands in the text. -/
theorem mem_of_membersToJson {depth : Nat} {members : List (Option String × Source)}
    {l : List (String × Json)} (h : Source.membersToJson depth members = some l)
    {name : String} {n : Number} (hmem : (name, .number n) ∈ l) :
    (some name, .number (some n)) ∈ members := by
  induction members generalizing l with
  | nil => cases h; cases hmem
  | cons p rest ih =>
    obtain ⟨key, s⟩ := p
    simp only [Source.membersToJson] at h
    split at h
    · next k v vs hv hvs =>
      cases h
      rcases List.mem_cons.mp hmem with hmem | hmem
      · cases hmem
        rw [eq_number_of_toJsonAt hv]
        exact List.mem_cons_self
      · exact .tail _ (ih hvs hmem)
    · cases h

/-- The numbers in a dictionary that is read from a text are finite. -/
theorem Source.isFinite_of_toDict? {text : String} {s : Source} {d : Dict Json}
    (hs : Source.ofText? text = some s) (hd : s.toDict? = some d) {name : String} {n : Number}
    (h : d.get? name = some (.number n)) : n.toBinary64.isFinite = true := by
  obtain ⟨v, hv, hmembers⟩ := Option.bind_eq_some_iff.mp hd
  cases s with
  | object members =>
    obtain ⟨l, hl, rfl⟩ := Option.map_eq_some_iff.mp hv
    obtain rfl : .ofList l = d := by simpa [ofDict, members?] using hmembers
    exact isFinite_of_mem_ofText? hs (mem_of_membersToJson hl (Dict.mem_of_get?_ofList h))
  | array items =>
    obtain ⟨_, -, rfl⟩ := Option.map_eq_some_iff.mp hv
    cases hmembers
  | number n | string s =>
    obtain ⟨_, -, rfl⟩ := Option.map_eq_some_iff.mp hv
    cases hmembers
  | null | bool _ =>
    cases hv
    cases hmembers

end BearerAuth.Json
