import BearerAuth.Claims.Value
import Mathlib.Algebra.Order.Field.Power
import Mathlib.Algebra.Order.Field.Rat
import Mathlib.Tactic.FieldSimp
import Mathlib.Tactic.Linarith
import Mathlib.Tactic.NormNum
import Mathlib.Tactic.Positivity
import Mathlib.Tactic.Ring

/-!
# Rounding

`Binary64.round` takes a quotient to the nearest number.  A quotient that *is* a number has to come
out as that number, and in its one canonical representation: this is `round_eq_finite`.  Its heart
is that the exponent guessed from the two bit lengths is the canonical one (`exponentOf_eq`).  Other
quotients grow by no more than half a unit of the last place (`magnitude_round_le`).

Whole numbers are the case that claims need.  Those below `2 ^ 53` are numbers themselves
(`toInt?_ofInt`), and larger ones are not rounded below it (`min_mul_le_of_magnitude_round`).  Below
`2 ^ 53` a claim's number is written without a fraction, as an integer, and is read as the number
nearest to that integer; that this changes nothing but the sign of a zero is `ofInt_of_toInt?`.
-/

namespace BearerAuth.Binary64

/-! ## Powers of two with a sign in the exponent -/

/-- A power of two, split as numbers are: what is above the line and what is below. -/
theorem two_zpow_mul (e : Int) : (2 : ℚ) ^ e * 2 ^ (-e).toNat = 2 ^ e.toNat := by
  rw [← zpow_natCast, ← zpow_natCast, ← zpow_add₀ two_ne_zero]
  congr 1
  omega

/-- Comparing a quotient with a power of two, without a division. -/
theorem mul_lt_mul_two_pow_iff {num den : Nat} (hden : 0 < den) (e : Int) :
    num * 2 ^ (-e).toNat < 2 ^ 53 * (den * 2 ^ e.toNat) ↔ (num / den : ℚ) < 2 ^ (53 + e) := by
  have hpos : (0 : ℚ) < 2 ^ (-e).toNat := by positivity
  have hden' : (0 : ℚ) < den := by exact_mod_cast hden
  have hcast : num * 2 ^ (-e).toNat < 2 ^ 53 * (den * 2 ^ e.toNat) ↔
      (num : ℚ) * 2 ^ (-e).toNat < 2 ^ 53 * (den * 2 ^ e.toNat) := by exact_mod_cast Iff.rfl
  have hright : (2 : ℚ) ^ 53 * (den * 2 ^ e.toNat) = 2 ^ (53 + e) * den * 2 ^ (-e).toNat := by
    rw [← two_zpow_mul e, zpow_add₀ two_ne_zero]
    norm_cast
    ring
  rw [hcast, hright, mul_lt_mul_iff_of_pos_right hpos, div_lt_iff₀ hden']

/-- A quotient lies between the powers of two that the bit lengths of its parts give. -/
theorem two_zpow_log2_bounds {num den : Nat} (hnum : 0 < num) (hden : 0 < den) :
    (2 : ℚ) ^ ((num.log2 : Int) - den.log2 - 1) < num / den ∧
      (num / den : ℚ) < 2 ^ ((num.log2 : Int) - den.log2 + 1) := by
  have hden' : (0 : ℚ) < den := by exact_mod_cast hden
  have hnumLow : (2 : ℚ) ^ (num.log2 : Int) ≤ num := by
    exact_mod_cast Nat.log2_self_le hnum.ne'
  have hnumHigh : (num : ℚ) < 2 ^ ((num.log2 : Int) + 1) := by
    exact_mod_cast Nat.lt_log2_self (n := num)
  have hdenLow : (2 : ℚ) ^ (den.log2 : Int) ≤ den := by
    exact_mod_cast Nat.log2_self_le hden.ne'
  have hdenHigh : (den : ℚ) < 2 ^ ((den.log2 : Int) + 1) := by
    exact_mod_cast Nat.lt_log2_self (n := den)
  constructor
  · rw [lt_div_iff₀ hden']
    calc (2 : ℚ) ^ ((num.log2 : Int) - den.log2 - 1) * den
        < 2 ^ ((num.log2 : Int) - den.log2 - 1) * 2 ^ ((den.log2 : Int) + 1) := by gcongr
      _ = 2 ^ (num.log2 : Int) := by rw [← zpow_add₀ two_ne_zero]; congr 1; ring
      _ ≤ num := hnumLow
  · rw [div_lt_iff₀ hden']
    calc (num : ℚ) < 2 ^ ((num.log2 : Int) + 1) := hnumHigh
      _ = 2 ^ ((num.log2 : Int) - den.log2 + 1) * 2 ^ (den.log2 : Int) := by
        rw [← zpow_add₀ two_ne_zero]; congr 1; ring
      _ ≤ 2 ^ ((num.log2 : Int) - den.log2 + 1) * den := by gcongr

/-! ## Rounding a number -/

variable {num den m : Nat} {e : Int}

/-- A quotient that is a number is rounded at the exponent of that number. -/
theorem exponentOf_eq (h : Canonical m e) (hm : 0 < m) (hden : 0 < den)
    (heq : num * 2 ^ (-e).toNat = m * 2 ^ e.toNat * den) : exponentOf num den = e := by
  obtain ⟨hlt, hleast, -, hfull⟩ := h
  have hnum : 0 < num := by
    refine Nat.pos_of_ne_zero fun hzero ↦ ?_
    have hright : 0 < m * 2 ^ e.toNat * den := by positivity
    rw [← heq, hzero, Nat.zero_mul] at hright
    exact absurd hright (lt_irrefl 0)
  have hvalue : (num / den : ℚ) = m * 2 ^ e := by
    have hden' : (den : ℚ) ≠ 0 := by exact_mod_cast hden.ne'
    have hpos : (2 : ℚ) ^ (-e).toNat ≠ 0 := by positivity
    have hcast : (num : ℚ) * 2 ^ (-e).toNat = m * 2 ^ e.toNat * den := by exact_mod_cast heq
    rw [div_eq_iff hden', ← mul_left_inj' hpos, hcast, ← two_zpow_mul e]
    ring
  have hbelow : (num / den : ℚ) < 2 ^ (53 + e) := by
    rw [hvalue, zpow_add₀ two_ne_zero]
    gcongr
    exact_mod_cast hlt
  obtain ⟨hlow, hhigh⟩ := two_zpow_log2_bounds hnum hden
  have hupper : (num.log2 : Int) - den.log2 - 1 < 53 + e :=
    (zpow_lt_zpow_iff_right₀ one_lt_two).mp (hlow.trans hbelow)
  -- the guess is at most the canonical exponent, and one less only if all 53 bits are in use
  rcases hfull with hfull | rfl
  · have habove : (2 : ℚ) ^ (52 + e) ≤ num / den := by
      rw [hvalue, zpow_add₀ two_ne_zero]
      gcongr
      exact_mod_cast hfull
    have hlower : 52 + e < (num.log2 : Int) - den.log2 + 1 :=
      (zpow_lt_zpow_iff_right₀ one_lt_two).mp (habove.trans_lt hhigh)
    obtain hguess | hguess : max (-1074) ((num.log2 : Int) - den.log2 - 53) = e ∨
        max (-1074) ((num.log2 : Int) - den.log2 - 53) = e - 1 := by omega
    · rw [exponentOf, hguess, if_pos ((mul_lt_mul_two_pow_iff hden e).mpr hbelow)]
    · have hnot : ¬(num / den : ℚ) < 2 ^ (53 + (e - 1)) := by
        rw [not_lt, show 53 + (e - 1) = 52 + e by ring]
        exact habove
      rw [exponentOf, hguess, if_neg (mt (mul_lt_mul_two_pow_iff hden (e - 1)).mp hnot)]
      ring
  · have hguess : max (-1074) ((num.log2 : Int) - den.log2 - 53) = -1074 := by omega
    rw [exponentOf, hguess, if_pos ((mul_lt_mul_two_pow_iff hden (-1074)).mpr hbelow)]

/-- A multiple is divided without rest. -/
theorem divHalfEven_mul (m : Nat) (hden : 0 < den) : divHalfEven (m * den) den = m := by
  simp [divHalfEven, Nat.mul_div_cancel _ hden, hden]

/-- A quotient that is a number is rounded to that number. -/
theorem round_eq_finite (negative : Bool) (h : Canonical m e) (hm : 0 < m) (hden : 0 < den)
    (heq : num * 2 ^ (-e).toNat = m * 2 ^ e.toNat * den) :
    round negative num den = .finite negative m e h := by
  have hnum : num ≠ 0 := by
    rintro rfl
    have hright : 0 < m * 2 ^ e.toNat * den := by positivity
    omega
  have hexact : num * 2 ^ (-e).toNat = m * (den * 2 ^ e.toNat) := by rw [heq]; ring
  rw [round, if_neg hnum]
  simp only [exponentOf_eq h hm hden heq, hexact, divHalfEven_mul m (show 0 < den * 2 ^ e.toNat by
    positivity)]
  rw [if_neg (by have := h.1; omega), ofParts, dif_pos h]

/-! ## How far rounding goes -/

/-- The nearest whole number is above a quotient by a half at most. -/
theorem divHalfEven_le (num : Nat) (hden : 0 < den) :
    (divHalfEven num den : ℚ) ≤ num / den + 1 / 2 := by
  have htwice : 2 * (divHalfEven num den * den) ≤ 2 * num + den := by
    have hparts : num / den * den + num % den = num := Nat.div_add_mod' num den
    rw [divHalfEven]
    split
    · omega
    · split
      · rw [Nat.add_mul]
        omega
      · obtain heven | hodd : num / den % 2 = 0 ∨ num / den % 2 = 1 := by omega
        · rw [heven, Nat.add_zero]
          omega
        · rw [hodd, Nat.add_mul]
          omega
  have hden' : (0 : ℚ) < den := by exact_mod_cast hden
  have hcast : (2 : ℚ) * (divHalfEven num den * den) ≤ 2 * num + den := by exact_mod_cast htwice
  rw [div_add_div _ _ hden'.ne' two_ne_zero, le_div_iff₀ (by positivity)]
  linarith

/-- The nearest whole number is not below the whole part of a quotient. -/
theorem div_le_divHalfEven (num den : Nat) : num / den ≤ divHalfEven num den := by
  rw [divHalfEven]
  split
  · exact le_rfl
  · split
    · exact Nat.le_succ _
    · exact Nat.le_add_right _ _

/-- A quotient of at most 53 bits above an exponent is rounded at this exponent or below. -/
theorem exponentOf_le (hnum : 0 < num) (hden : 0 < den) (hleast : -1074 ≤ e)
    (h : (num / den : ℚ) < 2 ^ (53 + e)) : exponentOf num den ≤ e := by
  have hupper : (num.log2 : Int) - den.log2 - 1 < 53 + e :=
    (zpow_lt_zpow_iff_right₀ one_lt_two).mp ((two_zpow_log2_bounds hnum hden).1.trans h)
  rw [exponentOf]
  set guess := max (-1074) ((num.log2 : Int) - den.log2 - 53)
  split
  · omega
  · next hnot =>
    have hne : guess ≠ e := fun heq ↦ hnot (heq ▸ (mul_lt_mul_two_pow_iff hden e).mpr h)
    omega

/-- What lies below the line is positive. -/
theorem pos_of_magnitude {x : Binary64} {n d : Nat} (h : x.magnitude = some (n, d)) : 0 < d := by
  cases x with
  | finite negative m e hc =>
    cases h
    positivity
  | infinite _ => cases h
  | nan => cases h

/-- Parts that make a finite number are its distance from zero. -/
theorem magnitude_ofParts {negative : Bool} {n d : Nat}
    (h : (ofParts negative m e).magnitude = some (n, d)) : (n / d : ℚ) = m * 2 ^ e := by
  rw [ofParts] at h
  split at h
  · cases h
    have hpos : (2 : ℚ) ^ (-e).toNat ≠ 0 := by positivity
    push_cast
    rw [div_eq_iff hpos, mul_assoc, two_zpow_mul]
  · cases h

/-- Nothing is rounded to nothing. -/
theorem eq_zero_of_magnitude_round {negative : Bool} {n d : Nat}
    (h : (round negative 0 den).magnitude = some (n, d)) : n = 0 := by
  rw [round, if_pos rfl, zero, magnitude, Nat.zero_mul] at h
  exact (Prod.mk.inj (Option.some.inj h)).1.symm

/-- A rounded quotient is a whole number of units of its last place. -/
theorem magnitude_round {negative : Bool} {n d : Nat} (hnum : num ≠ 0)
    (h : (round negative num den).magnitude = some (n, d)) :
    let e := exponentOf num den
    (n / d : ℚ) = divHalfEven (num * 2 ^ (-e).toNat) (den * 2 ^ e.toNat) * 2 ^ e := by
  rw [round, if_neg hnum] at h
  dsimp only at h ⊢
  split at h
  · next hfull =>
    rw [magnitude_ofParts h, hfull, zpow_add_one₀ two_ne_zero]
    push_cast
    ring
  · exact magnitude_ofParts h

/-- Counted in units of a place and then multiplied by the unit, a quotient is what it was. -/
theorem div_scaled_mul (hden : 0 < den) (e : Int) :
    ((num * 2 ^ (-e).toNat : Nat) / (den * 2 ^ e.toNat : Nat) : ℚ) * 2 ^ e = num / den := by
  have hden' : (den : ℚ) ≠ 0 := by exact_mod_cast hden.ne'
  push_cast
  rw [← two_zpow_mul e]
  field_simp

/-- Rounding adds half a unit of the last place at most. -/
theorem magnitude_round_le {negative : Bool} {n d : Nat} (hden : 0 < den)
    (h : (round negative num den).magnitude = some (n, d)) :
    (n / d : ℚ) ≤ num / den + 2 ^ exponentOf num den / 2 := by
  obtain rfl | hnum := eq_or_ne num 0
  · rw [eq_zero_of_magnitude_round h, Nat.cast_zero, zero_div]
    positivity
  · set e := exponentOf num den
    calc (n / d : ℚ)
        = divHalfEven (num * 2 ^ (-e).toNat) (den * 2 ^ e.toNat) * 2 ^ e := magnitude_round hnum h
      _ ≤ ((num * 2 ^ (-e).toNat : Nat) / (den * 2 ^ e.toNat : Nat) + 1 / 2) * 2 ^ e := by
        gcongr
        exact divHalfEven_le _ (by positivity)
      _ = num / den + 2 ^ e / 2 := by rw [add_mul, div_scaled_mul hden]; ring

/-- What a number has behind its point stays below one by at least the last of 53 bits. -/
theorem fraction_le {x : Binary64} (h : x.magnitude = some (num, den)) :
    num % den * 2 ^ 53 + den ≤ 2 ^ 53 * den := by
  cases x with
  | finite negative m e hc =>
    cases h
    obtain hwhole | hpoint : (-e).toNat = 0 ∨ e.toNat = 0 := by omega
    · rw [hwhole, Nat.pow_zero, Nat.mod_one]
      decide
    · rw [hpoint, Nat.pow_zero, Nat.mul_one]
      have hrest : m % 2 ^ (-e).toNat < 2 ^ (-e).toNat := Nat.mod_lt _ (by positivity)
      have hfew : m % 2 ^ (-e).toNat < 2 ^ 53 := (Nat.mod_le _ _).trans_lt hc.1
      -- the rest is one below a short denominator, and far below a long one
      obtain hshort | hlong : (-e).toNat ≤ 53 ∨ 54 ≤ (-e).toNat := by omega
      · have hden : 2 ^ (-e).toNat ≤ 2 ^ 53 := Nat.pow_le_pow_right two_pos hshort
        omega
      · have hden : 2 ^ 54 ≤ 2 ^ (-e).toNat := Nat.pow_le_pow_right two_pos hlong
        omega
  | infinite _ => cases h
  | nan => cases h

/-! ## What rounding does not overflow -/

/-- The exponent at which a quotient is rounded leaves 53 bits of it, if it is not the least one. -/
theorem exponentOf_bounds (hnum : 0 < num) (hden : 0 < den) :
    -1074 ≤ exponentOf num den ∧ (num / den : ℚ) < 2 ^ (53 + exponentOf num den) ∧
      (exponentOf num den = -1074 ∨ (2 : ℚ) ^ (52 + exponentOf num den) ≤ num / den) := by
  obtain ⟨hlow, hhigh⟩ := two_zpow_log2_bounds hnum hden
  rw [exponentOf]
  set guess := max (-1074) ((num.log2 : Int) - den.log2 - 53)
  split
  · next hfits =>
    refine ⟨le_max_left _ _, (mul_lt_mul_two_pow_iff hden guess).mp hfits, ?_⟩
    obtain hleast | hlengths : guess = -1074 ∨ guess = (num.log2 : Int) - den.log2 - 53 := by omega
    · exact .inl hleast
    · refine .inr ?_
      rw [hlengths, show 52 + ((num.log2 : Int) - den.log2 - 53) = num.log2 - den.log2 - 1 by ring]
      exact hlow.le
  · next hfits =>
    rw [mul_lt_mul_two_pow_iff hden guess, not_lt] at hfits
    refine ⟨by omega, hhigh.trans_le (zpow_le_zpow_right₀ one_le_two (by omega)), .inr ?_⟩
    rwa [show 52 + (guess + 1) = 53 + guess by ring]

/-- Canonical parts make a finite number. -/
theorem isFinite_ofParts (negative : Bool) (h : Canonical m e) :
    (ofParts negative m e).isFinite = true := by
  rw [ofParts, dif_pos h]
  rfl

/-- A quotient that is no further from zero than the last number is rounded to a number. -/
theorem isFinite_round (negative : Bool) (hden : 0 < den)
    (h : (num / den : ℚ) ≤ (2 ^ 53 - 1) * 2 ^ (971 : Int)) :
    (round negative num den).isFinite = true := by
  obtain rfl | hnum := Nat.eq_zero_or_pos num
  · rfl
  obtain ⟨hleast, hbelow, habove⟩ := exponentOf_bounds hnum hden
  have hlast : exponentOf num den ≤ 971 := by
    refine exponentOf_le hnum hden (by decide) (h.trans_lt ?_)
    rw [zpow_add₀ two_ne_zero]
    gcongr
    norm_num
  rw [round, if_neg hnum.ne']
  set e := exponentOf num den
  set m := divHalfEven (num * 2 ^ (-e).toNat) (den * 2 ^ e.toNat)
  have hunit : (0 : ℚ) < 2 ^ e := by positivity
  have hscaled : 0 < den * 2 ^ e.toNat := by positivity
  -- the quotient in units of its last place, which is rounded to `m`
  set q : ℚ := (num * 2 ^ (-e).toNat : Nat) / (den * 2 ^ e.toNat : Nat)
  have hq : q * 2 ^ e = num / den := div_scaled_mul hden e
  have hmq : (m : ℚ) ≤ q + 1 / 2 := divHalfEven_le _ hscaled
  have hq53 : q < 2 ^ 53 := by
    rw [← hq, zpow_add₀ two_ne_zero] at hbelow
    exact_mod_cast lt_of_mul_lt_mul_right hbelow hunit.le
  have hm53 : m ≤ 2 ^ 53 := by
    have hlt : (m : ℚ) < 2 ^ 53 + 1 := by linarith
    exact Nat.lt_succ_iff.mp (by exact_mod_cast hlt)
  dsimp only
  split
  · next hfull =>
    refine isFinite_ofParts negative ⟨by decide, by omega, ?_, .inl le_rfl⟩
    -- at the last exponent the quotient does not reach the number that has no room there
    by_contra htop
    have he : e = 971 := by omega
    have hle : q ≤ 2 ^ 53 - 1 := by
      rw [← hq, he] at h
      exact le_of_mul_le_mul_right h (by positivity)
    have hmfull : (m : ℚ) = 2 ^ 53 := by exact_mod_cast hfull
    linarith
  · next hne =>
    refine isFinite_ofParts negative ⟨by omega, hleast, hlast, habove.symm.imp_left fun hfull ↦ ?_⟩
    rw [← hq, zpow_add₀ two_ne_zero] at hfull
    have hq52 : ((2 ^ 52 : Nat) : ℚ) ≤ q := by
      exact_mod_cast le_of_mul_le_mul_right hfull hunit
    rw [le_div_iff₀ (by exact_mod_cast hscaled)] at hq52
    refine le_trans ?_ (div_le_divHalfEven _ _)
    exact (Nat.le_div_iff_mul_le hscaled).mpr (by exact_mod_cast hq52)

/-- Division by a whole number does not make a number infinite. -/
theorem isFinite_scale_one {x : Binary64} (h : x.isFinite = true) (hden : 0 < den) :
    (x.scale 1 den).isFinite = true := by
  cases x with
  | finite negative m e hc =>
    obtain ⟨hm, -, hlast, -⟩ := hc
    refine isFinite_round negative (Nat.mul_pos (by positivity) hden) ?_
    have hvalue : (m * 2 ^ e.toNat : ℚ) = m * 2 ^ e * 2 ^ (-e).toNat := by
      rw [mul_assoc, two_zpow_mul]
    have hpos : (0 : ℚ) < 2 ^ (-e).toNat := by positivity
    have hden' : (1 : ℚ) ≤ den := by exact_mod_cast hden
    have hm' : (m : ℚ) ≤ 2 ^ 53 - 1 := by
      rw [le_sub_iff_add_le]
      exact_mod_cast hm
    calc ((m * 2 ^ e.toNat * 1 : Nat) / (2 ^ (-e).toNat * den : Nat) : ℚ)
        = m * 2 ^ e / den := by push_cast; rw [mul_one, hvalue]; field_simp
      _ ≤ m * 2 ^ e := div_le_self (by positivity) hden'
      _ ≤ (2 ^ 53 - 1) * 2 ^ (971 : Int) :=
        mul_le_mul hm' (zpow_le_zpow_right₀ one_le_two hlast) (by positivity) (by norm_num)
  | infinite _ => cases h
  | nan => cases h

/-- A whole number is not rounded below itself as long as it has 53 bits, and not below all those
that have as many otherwise. -/
theorem min_mul_le_of_magnitude_round {negative : Bool} {n d : Nat}
    (h : (round negative num 1).magnitude = some (n, d)) : min num (2 ^ 53) * d ≤ n := by
  obtain rfl | hnum := Nat.eq_zero_or_pos num
  · rw [Nat.zero_min, Nat.zero_mul]
    exact Nat.zero_le n
  obtain ⟨-, -, habove⟩ := exponentOf_bounds hnum one_pos
  have hvalue := magnitude_round hnum.ne' h
  have hfloor := div_le_divHalfEven (num * 2 ^ (-exponentOf num 1).toNat)
    (1 * 2 ^ (exponentOf num 1).toNat)
  set e := exponentOf num 1
  set m := divHalfEven (num * 2 ^ (-e).toNat) (1 * 2 ^ e.toNat)
  have hd : (0 : ℚ) < d := by exact_mod_cast pos_of_magnitude h
  suffices hle : ((min num (2 ^ 53) : Nat) : ℚ) ≤ n / d by
    rw [le_div_iff₀ hd] at hle
    exact_mod_cast hle
  rw [hvalue]
  obtain hpos | hneg : 1 ≤ e ∨ e ≤ 0 := by omega
  · -- all 53 bits are in use, and each unit counts for two at least
    have hbits : (2 : ℚ) ^ (52 + e) ≤ num := by
      simpa using habove.resolve_left (by omega)
    have hm : 2 ^ 52 ≤ m := by
      refine le_trans ?_ hfloor
      rw [one_mul, show (-e).toNat = 0 by omega, pow_zero, mul_one]
      refine (Nat.le_div_iff_mul_le (by positivity)).mpr ?_
      rw [zpow_add₀ two_ne_zero, ← Int.toNat_of_nonneg (show 0 ≤ e by omega), zpow_natCast] at hbits
      exact_mod_cast hbits
    have hunit : (2 : ℚ) ^ (1 : Int) ≤ 2 ^ e := zpow_le_zpow_right₀ one_le_two hpos
    calc ((min num (2 ^ 53) : Nat) : ℚ)
        ≤ (2 ^ 53 : Nat) := by exact_mod_cast Nat.min_le_right num (2 ^ 53)
      _ = 2 ^ 52 * 2 ^ (1 : Int) := by norm_num
      _ ≤ m * 2 ^ e := by gcongr; exact_mod_cast hm
  · -- a whole number is a whole number of such units
    have hm : num * 2 ^ (-e).toNat ≤ m := by
      refine le_trans ?_ hfloor
      rw [show e.toNat = 0 by omega, pow_zero, mul_one, Nat.div_one]
    have hunit : (2 : ℚ) ^ e * 2 ^ (-e).toNat = 1 := by
      rw [two_zpow_mul, show e.toNat = 0 by omega, pow_zero]
    calc ((min num (2 ^ 53) : Nat) : ℚ)
        ≤ num := by exact_mod_cast Nat.min_le_left num (2 ^ 53)
      _ = (num * 2 ^ (-e).toNat : Nat) * 2 ^ e := by
        push_cast
        rw [mul_assoc, mul_comm _ (2 ^ e), hunit, mul_one]
      _ ≤ m * 2 ^ e := by gcongr

/-- A whole number above zero is not rounded below one. -/
theorem le_of_magnitude_round {negative : Bool} {n d : Nat} (hnum : 0 < num)
    (h : (round negative num 1).magnitude = some (n, d)) : d ≤ n := by
  refine le_trans ?_ (min_mul_le_of_magnitude_round h)
  exact Nat.le_mul_of_pos_left d (lt_min hnum (by positivity))

/-- The finite numbers are those at a distance from zero. -/
theorem isFinite_iff {x : Binary64} : x.isFinite = true ↔ ∃ p, x.magnitude = some p := by
  cases x <;> simp [isFinite, magnitude]

/-- The other sign does not make a number infinite. -/
theorem isFinite_negate (x : Binary64) : x.negate.isFinite = x.isFinite := by cases x <;> rfl

/-! ## Whole numbers -/

/-- A rounded number has the sign that is asked for. -/
theorem round_cases (negative : Bool) (num den : Nat) :
    round negative num den = .infinite negative ∨
      ∃ m e h, round negative num den = .finite negative m e h := by
  have hparts (n : Nat) (k : Int) : ofParts negative n k = .infinite negative ∨
      ∃ m e h, ofParts negative n k = .finite negative m e h := by
    rw [ofParts]
    split
    · next hc => exact .inr ⟨n, k, hc, rfl⟩
    · exact .inl rfl
  rw [round]
  split
  · exact .inr ⟨0, -1074, by decide, rfl⟩
  · dsimp only
    split
    · exact hparts _ _
    · exact hparts _ _

/-- A whole number is below zero just if the number nearest to it is. -/
theorem isBelowZero_ofInt (n : Int) : (ofInt n).isBelowZero = decide (n < 0) := by
  rw [ofInt]
  obtain hinfinite | ⟨m, e, hc, hfinite⟩ := round_cases (decide (n < 0)) n.natAbs 1
  · rw [hinfinite, isBelowZero]
  · rw [hfinite, isBelowZero]
    obtain hneg | hpos : n < 0 ∨ 0 ≤ n := lt_or_ge n 0
    · have hm : m ≠ 0 := by
        have hpos : 0 < n.natAbs := by omega
        have hle := le_of_magnitude_round hpos (congrArg magnitude hfinite)
        rintro rfl
        rw [Nat.zero_mul] at hle
        exact absurd hle (by simp)
      simp [hneg, hm]
    · simp [hpos]

/-- A whole number of at most 53 bits is a number. -/
theorem round_eq_of_lt (h : num < 2 ^ 53) :
    ∃ m e hc, m * 2 ^ e.toNat = num * 2 ^ (-e).toNat ∧
      ∀ negative, round negative num 1 = .finite negative m e hc := by
  obtain rfl | hnum := Nat.eq_zero_or_pos num
  · exact ⟨0, -1074, by decide, by rw [Nat.zero_mul, Nat.zero_mul], fun _ ↦ rfl⟩
  · -- the bits are moved up until there are 53 of them
    have hlog : num.log2 ≤ 52 := by
      have hlt : num.log2 < 53 := (Nat.log2_lt hnum.ne').mpr h
      omega
    have hlow : 2 ^ num.log2 ≤ num := Nat.log2_self_le hnum.ne'
    have hhigh : num < 2 ^ (num.log2 + 1) := Nat.lt_log2_self
    set k := 52 - num.log2
    have hfull : 2 ^ 52 ≤ num * 2 ^ k := by
      calc 2 ^ 52 = 2 ^ num.log2 * 2 ^ k := by rw [← pow_add]; congr 1; omega
        _ ≤ num * 2 ^ k := by gcongr
    have hroom : num * 2 ^ k < 2 ^ 53 := by
      calc num * 2 ^ k < 2 ^ (num.log2 + 1) * 2 ^ k := by gcongr
        _ = 2 ^ 53 := by rw [← pow_add]; congr 1; omega
    have hc : Canonical (num * 2 ^ k) (-k) := ⟨hroom, by omega, by omega, .inl hfull⟩
    have hvalue : num * 2 ^ k * 2 ^ (-(k : Int)).toNat = num * 2 ^ (- -(k : Int)).toNat := by
      simp
    refine ⟨num * 2 ^ k, -k, hc, hvalue, fun negative ↦ ?_⟩
    exact round_eq_finite negative hc (by positivity) one_pos (by rw [hvalue, Nat.mul_one])

/-- A whole number of at most 53 bits is the number nearest to it. -/
theorem toInt?_ofInt {n : Int} (h : n.natAbs < 2 ^ 53) : (ofInt n).toInt? = some n := by
  obtain ⟨m, e, hc, hvalue, hround⟩ := round_eq_of_lt h
  have hpos : 0 < 2 ^ (-e).toNat := by positivity
  rw [ofInt, hround, toInt?]
  simp only [hvalue, Nat.mul_mod_left, Nat.mul_div_cancel _ hpos, if_true, decide_eq_true_eq,
    Option.some.injEq]
  split <;> omega

/-- A number that is whole has nothing behind its point. -/
theorem magnitude_of_toInt? {x : Binary64} {n : Int} (h : x.toInt? = some n) :
    ∃ d, 0 < d ∧ x.magnitude = some (n.natAbs * d, d) := by
  cases x with
  | finite negative m e hc =>
    rw [toInt?] at h
    split at h
    · next hdvd =>
      have habs : m * 2 ^ e.toNat / 2 ^ (-e).toNat = n.natAbs := by
        rw [Option.some.injEq] at h
        split at h
        · rw [← h, Int.natAbs_neg, Int.natAbs_natCast]
        · rw [← h, Int.natAbs_natCast]
      refine ⟨2 ^ (-e).toNat, by positivity, ?_⟩
      rw [magnitude, ← habs, Nat.div_mul_cancel (Nat.dvd_of_mod_eq_zero hdvd)]
    · cases h
  | infinite _ => cases h
  | nan => cases h

/-! ## The two zeros -/

/-- Whether two numbers count as equal: the two zeros do, and what is no number equals nothing. -/
def sameAs : Binary64 → Binary64 → Bool
  | .finite _ 0 _ _, .finite _ 0 _ _ => true
  | .nan, _ => false
  | x, y => x = y

/-- The number, with zero in place of minus zero. -/
def plain : Binary64 → Binary64
  | .finite _ 0 e h => .finite false 0 e h
  | x => x

/-- Numbers other than zeros stay as they are. -/
theorem plain_of_toInt?_ne {x : Binary64} (h : x.toInt? ≠ some 0) : x.plain = x := by
  match x with
  | .finite _ 0 _ _ => simp [toInt?] at h
  | .finite _ (_ + 1) _ _ | .infinite _ | .nan => rfl

/-- The sign of a zero does not make a number infinite. -/
theorem isFinite_plain (x : Binary64) : x.plain.isFinite = x.isFinite := by
  match x with
  | .finite _ 0 _ _ | .finite _ (_ + 1) _ _ | .infinite _ | .nan => rfl

/-- A number counts as equal to what it becomes without the sign of a zero. -/
theorem sameAs_plain {x : Binary64} (h : x ≠ .nan) : x.plain.sameAs x = true := by
  match x with
  | .finite _ 0 _ _ => rfl
  | .finite _ (m + 1) _ _ => simp [plain, sameAs]
  | .infinite _ => simp [plain, sameAs]
  | .nan => exact absurd rfl h

/-- A number that is whole is the number nearest to that whole number, the sign of a zero apart. -/
theorem ofInt_of_toInt? {x : Binary64} {n : Int} (h : x.toInt? = some n) : ofInt n = x.plain := by
  match x with
  | .finite negative 0 e hc =>
    obtain rfl : e = -1074 := hc.2.2.2.resolve_left (by decide)
    simp only [toInt?, Nat.zero_mul, Nat.zero_mod, Nat.zero_div, if_true, Nat.cast_zero, neg_zero,
      ite_self, Option.some.injEq] at h
    subst h
    rfl
  | .finite negative (m + 1) e hc =>
    have hden : 0 < 2 ^ (-e).toNat := by positivity
    simp only [toInt?] at h
    split at h
    · next hdvd =>
      set k := (m + 1) * 2 ^ e.toNat / 2 ^ (-e).toNat with hk
      have hmul : k * 2 ^ (-e).toNat = (m + 1) * 2 ^ e.toNat :=
        Nat.div_mul_cancel (Nat.dvd_of_mod_eq_zero hdvd)
      have hpos : 0 < k := by
        refine Nat.pos_of_ne_zero fun hzero ↦ ?_
        rw [hzero, Nat.zero_mul] at hmul
        exact absurd hmul.symm (by positivity)
      obtain ⟨hsign, habs⟩ : decide (n < 0) = negative ∧ n.natAbs = k := by
        cases negative <;> simp only [Option.some.injEq, if_true, if_false, Bool.false_eq_true] at h
          <;> subst h <;> simp [hpos]
      rw [ofInt, hsign, habs]
      exact round_eq_finite negative hc (Nat.succ_pos m) one_pos (by rw [hmul, Nat.mul_one])
    · cases h
  | .infinite _ => cases h
  | .nan => cases h

end BearerAuth.Binary64
