import BearerAuth.Proofs.Binary64
import BearerAuth.Instant

/-!
# Exact time

Away from leap seconds an instant is its number of nanoseconds: `before` compares these numbers, and
`later?` adds to them, as long as the sum is in the calendar.  A sum that is not lies beyond every
instant (`lt_of_later?_eq_none`), so a comparison with it is decided.

Instants that come from the number of a claim are of this kind (`isLeap_of_ofNumericDate?`).  That
is not obvious: what is behind the point is multiplied in floating point, which rounds upwards too,
and in the last second of a minute a full thousand million would be taken for a leap second.  Whole
numbers of seconds are dates without any rounding, up to the end of the calendar and no further
(`isDate_ofInt_iff`).
-/

namespace BearerAuth.Instant

variable {t u : Instant} {n : Int}

/-! ## Comparing -/

/-- Outside leap seconds the nanoseconds stay within the second. -/
theorem isLeap_eq_false_iff : t.isLeap = false ↔ t.nanos < perSecond := by simp [isLeap]

/-- Outside leap seconds all nanoseconds count. -/
theorem toNanos_eq (h : t.isLeap = false) : t.toNanos = t.seconds * perSecond + t.nanos := by
  rw [toNanos, Nat.mod_eq_of_lt (isLeap_eq_false_iff.mp h)]

/-- Outside leap seconds one instant comes before another if it has fewer nanoseconds. -/
theorem before_iff (ht : t.isLeap = false) (hu : u.isLeap = false) :
    t.before u = true ↔ t.toNanos < u.toNanos := by
  rw [toNanos_eq ht, toNanos_eq hu]
  rw [isLeap_eq_false_iff, perSecond] at ht hu
  simp only [before, perSecond, Bool.or_eq_true, Bool.and_eq_true, decide_eq_true_eq]
  omega

/-! ## The calendar -/

/-- Whether a number of nanoseconds from the start of 1970 is in the calendar. -/
def InCalendar (n : Int) : Prop := firstSecond * perSecond ≤ n ∧ n < (lastSecond + 1) * perSecond

/-- Instants are in the calendar. -/
theorem inCalendar_toNanos (t : Instant) : InCalendar t.toNanos := by
  have hfirst := t.first_le
  have hlast := t.le_last
  rw [firstSecond] at hfirst
  rw [lastSecond] at hlast
  simp only [InCalendar, toNanos, firstSecond, lastSecond, perSecond]
  omega

/-- An instant is found from its parts. -/
theorem of?_eq_some_iff {seconds : Int} {nanos : Nat} :
    of? seconds nanos = some t ↔ t.seconds = seconds ∧ t.nanos = nanos := by
  rw [of?]
  constructor
  · intro h
    split at h
    · cases h
      exact ⟨rfl, rfl⟩
    · cases h
  · rintro ⟨rfl, rfl⟩
    rw [dif_pos ⟨t.within, t.first_le, t.le_last⟩]

/-- An instant is found just if the calendar has its second. -/
theorem exists_of?_iff {seconds : Int} {nanos : Nat} (h : Within seconds nanos) :
    (∃ t, of? seconds nanos = some t) ↔ firstSecond ≤ seconds ∧ seconds ≤ lastSecond := by
  simp [of?, h]

/-- The instants found from a number of nanoseconds are those that have this number, leap seconds
apart. -/
theorem ofNanos?_eq_some_iff : ofNanos? n = some t ↔ t.isLeap = false ∧ t.toNanos = n := by
  rw [ofNanos?, of?_eq_some_iff]
  constructor
  · rintro ⟨hseconds, hnanos⟩
    have hleap : t.isLeap = false := by
      rw [isLeap_eq_false_iff, hnanos, perSecond]
      omega
    refine ⟨hleap, ?_⟩
    rw [toNanos_eq hleap, hseconds, hnanos]
    simp only [perSecond]
    omega
  · rintro ⟨hleap, rfl⟩
    rw [toNanos_eq hleap]
    rw [isLeap_eq_false_iff, perSecond] at hleap
    simp only [perSecond]
    omega

/-- No instant is found outside the calendar only. -/
theorem ofNanos?_eq_none_iff : ofNanos? n = none ↔ ¬InCalendar n := by
  have hwithin : Within (n / perSecond) (n % perSecond).toNat := by
    refine .inl ?_
    simp only [perSecond]
    omega
  rw [ofNanos?, of?, dite_eq_right_iff]
  simp only [hwithin, true_and, reduceCtorEq, imp_false]
  simp only [InCalendar, firstSecond, lastSecond, perSecond]
  omega

/-! ## Moving -/

/-- Outside leap seconds, an instant some nanoseconds later has as many nanoseconds more. -/
theorem toNanos_of_later? {nanos : Nat} (ht : t.isLeap = false) (h : t.later? nanos = some u) :
    u.isLeap = false ∧ u.toNanos = t.toNanos + nanos := by
  rw [later?, if_neg (by simp [ht])] at h
  exact ofNanos?_eq_some_iff.mp h

/-- Outside leap seconds, an end that is moved out of the calendar lies beyond every instant. -/
theorem lt_of_later?_eq_none {nanos : Nat} (ht : t.isLeap = false) (h : t.later? nanos = none)
    (u : Instant) : u.toNanos < t.toNanos + nanos := by
  rw [later?, if_neg (by simp [ht]), ofNanos?_eq_none_iff] at h
  have hstart := t.inCalendar_toNanos
  have hother := u.inCalendar_toNanos
  simp only [InCalendar] at *
  omega

/-! ## Dates of claims -/

/-- What a number has behind its point comes to less than a second, however it is rounded. -/
theorem fraction_lt_perSecond {x : Binary64} {num den n d : Nat}
    (hx : x.magnitude = some (num, den))
    (h : (Binary64.round false (num % den * perSecond) den).magnitude = some (n, d)) :
    n / d < perSecond := by
  have hden : 0 < den := Binary64.pos_of_magnitude hx
  have hden' : (0 : ℚ) < den := by exact_mod_cast hden
  rw [Nat.div_lt_iff_lt_mul (Binary64.pos_of_magnitude h)]
  obtain hzero | hpos := Nat.eq_zero_or_pos (num % den)
  · rw [hzero, Nat.zero_mul] at h
    rw [Binary64.eq_zero_of_magnitude_round h]
    exact Nat.mul_pos (by decide) (Binary64.pos_of_magnitude h)
  · have hvalue : ((num % den * perSecond : Nat) / den : ℚ) ≤ perSecond - perSecond / 2 ^ 53 := by
      have hcast : ((num % den : Nat) * 2 ^ 53 + den : ℚ) ≤ 2 ^ 53 * den := by
        exact_mod_cast Binary64.fraction_le hx
      rw [div_le_iff₀ hden']
      push_cast
      simp only [perSecond]
      linarith
    have hexponent : Binary64.exponentOf (num % den * perSecond) den ≤ -23 := by
      refine Binary64.exponentOf_le (Nat.mul_pos hpos (by decide)) hden (by decide) ?_
      refine hvalue.trans_lt ?_
      norm_num [perSecond]
    have hplace : (2 : ℚ) ^ Binary64.exponentOf (num % den * perSecond) den ≤ 2 ^ (-23 : Int) :=
      zpow_le_zpow_right₀ one_le_two hexponent
    have hround : (n / d : ℚ) < perSecond := by
      calc (n / d : ℚ) ≤ _ := Binary64.magnitude_round_le hden h
        _ ≤ (perSecond - perSecond / 2 ^ 53) + 2 ^ (-23 : Int) / 2 := by gcongr
        _ < perSecond := by norm_num [perSecond]
    have hd : (0 : ℚ) < d := by exact_mod_cast Binary64.pos_of_magnitude h
    rw [div_lt_iff₀ hd] at hround
    exact_mod_cast hround

/-- What a number has behind its point is not rounded out of range. -/
theorem exists_fraction {x : Binary64} {num den : Nat} (hx : x.magnitude = some (num, den)) :
    ∃ n d, (Binary64.round false (num % den * perSecond) den).magnitude = some (n, d) := by
  have hden : 0 < den := Binary64.pos_of_magnitude hx
  have hden' : (0 : ℚ) < den := by exact_mod_cast hden
  have hfinite : (Binary64.round false (num % den * perSecond) den).isFinite = true := by
    refine Binary64.isFinite_round false hden ?_
    have hrest : ((num % den : Nat) : ℚ) ≤ den := by exact_mod_cast (Nat.mod_lt num hden).le
    calc ((num % den * perSecond : Nat) / den : ℚ)
        = (num % den : Nat) / den * perSecond := by push_cast; ring
      _ ≤ 1 * perSecond := by gcongr; exact (div_le_one hden').mpr hrest
      _ ≤ (2 ^ 53 - 1) * 1 := by norm_num [perSecond]
      _ ≤ (2 ^ 53 - 1) * 2 ^ (971 : Int) :=
        mul_le_mul_of_nonneg_left (one_le_zpow₀ one_le_two (by decide)) (by norm_num)
  obtain ⟨⟨n, d⟩, h⟩ := Binary64.isFinite_iff.mp hfinite
  exact ⟨n, d, h⟩

/-- Whether a number is a date: it is finite and not below zero, and the calendar has its second. -/
def IsDate (x : Binary64) : Prop :=
  ∃ num den, x.magnitude = some (num, den) ∧ x.isBelowZero = false ∧
    ((num / den : Nat) : Int) ≤ lastSecond

/-- The numbers that stand for an instant are the dates. -/
theorem exists_ofNumericDate?_iff {x : Binary64} : (∃ t, ofNumericDate? x = some t) ↔ IsDate x := by
  rw [IsDate]
  rw [ofNumericDate?]
  cases hx : x.magnitude with
  | none => simp
  | some p =>
    obtain ⟨num, den⟩ := p
    obtain ⟨n, d, hround⟩ := exists_fraction hx
    have hof : (∃ t, of? (num / den : Nat) (n / d) = some t) ↔
        ((num / den : Nat) : Int) ≤ lastSecond := by
      rw [exists_of?_iff (.inl (fraction_lt_perSecond hx hround))]
      exact and_iff_right (le_trans (by decide) (Int.natCast_nonneg _))
    cases hsign : x.isBelowZero with
    | true => simp
    | false => simpa only [Bool.false_eq_true, if_false, hround, Option.some.injEq, Prod.mk.injEq,
        existsAndEq, true_and] using hof

/-- A number never stands for an instant in a leap second. -/
theorem isLeap_of_ofNumericDate? {x : Binary64} (h : ofNumericDate? x = some t) :
    t.isLeap = false := by
  rw [ofNumericDate?] at h
  split at h
  · cases h
  · next num den hx =>
    split at h
    · cases h
    · split at h
      · next n d hround =>
        rw [isLeap, (of?_eq_some_iff.mp h).2]
        simpa using fraction_lt_perSecond hx hround
      · cases h

/-! ## Whole seconds -/

/-- The seconds of the calendar from the start of 1970 have less than 53 bits. -/
theorem natAbs_lt (hsign : 0 ≤ n) (hlast : n ≤ lastSecond) : n.natAbs < 2 ^ 53 := by
  rw [lastSecond] at hlast
  omega

/-- The whole numbers that are dates are those of the seconds from the start of 1970 to the end of
the calendar, although larger ones are rounded. -/
theorem isDate_ofInt_iff : IsDate (.ofInt n) ↔ 0 ≤ n ∧ n ≤ lastSecond := by
  rw [IsDate, Binary64.isBelowZero_ofInt]
  simp only [decide_eq_false_iff_not, not_lt]
  constructor
  · rintro ⟨num, den, hmagnitude, hsign, hlast⟩
    refine ⟨hsign, ?_⟩
    have hden : 0 < den := Binary64.pos_of_magnitude hmagnitude
    have hle : min n.natAbs (2 ^ 53) ≤ num / den :=
      (Nat.le_div_iff_mul_le hden).mpr (Binary64.min_mul_le_of_magnitude_round hmagnitude)
    simp only [lastSecond] at *
    omega
  · rintro ⟨hsign, hlast⟩
    have hexact := Binary64.toInt?_ofInt (natAbs_lt hsign hlast)
    obtain ⟨den, hden, hmagnitude⟩ := Binary64.magnitude_of_toInt? hexact
    refine ⟨_, den, hmagnitude, hsign, ?_⟩
    rw [Nat.mul_div_cancel _ hden, Int.natAbs_of_nonneg hsign]
    exact hlast

/-- The instant that a whole number stands for is the start of its second. -/
theorem eq_of_ofNumericDate?_ofInt (h : ofNumericDate? (.ofInt n) = some t) :
    t.seconds = n ∧ t.nanos = 0 := by
  obtain ⟨hsign, hlast⟩ := isDate_ofInt_iff.mp (exists_ofNumericDate?_iff.mp ⟨t, h⟩)
  have hexact := Binary64.toInt?_ofInt (natAbs_lt hsign hlast)
  obtain ⟨den, hden, hmagnitude⟩ := Binary64.magnitude_of_toInt? hexact
  rw [ofNumericDate?, hmagnitude] at h
  dsimp only at h
  split at h
  · cases h
  · split at h
    · next m d hround =>
      rw [Nat.mul_mod_left, Nat.zero_mul] at hround
      rw [Binary64.eq_zero_of_magnitude_round hround, Nat.zero_div, Nat.mul_div_cancel _ hden,
        Int.natAbs_of_nonneg hsign] at h
      exact of?_eq_some_iff.mp h
    · cases h

end BearerAuth.Instant
