import BearerAuth.Proofs.Json.Numeral
import Mathlib.Data.Nat.Digits.Defs

/-!
# Numbers with a point in JSON texts

The text of a finite number has a point, an exponent, or both.  Like the text of a whole number it
is a numeral, which is read up to where it ends (`Number.isNumeral_float`).

Where zeros are put behind the digits of a decimal, these must not be a zero themselves.  They never
are: a decimal that is found in an interval above zero is `Decimal.Proper`, since zero is no point
of the interval, and no interval is so far above zero that the search for a point of it gives up
with nothing but a zero.
-/

namespace BearerAuth

/-! ## Shortest decimals -/

namespace Decimal

/-- Whether no zeros are put behind a zero when a decimal is written. -/
def Proper (d : Decimal) : Prop := d.digits = 0 → d.exponent ≤ 0

/-- A grid point of an interval above zero is above zero. -/
theorem gridPoint?_ne_zero {i : Interval} (hlow : 0 < i.low) {k : Int} {d : Nat}
    (h : gridPoint? i k = some d) : d ≠ 0 := by
  have hmiss : ∀ d, i.contains (d * 10 ^ k.toNat) (10 ^ (-k).toNat) = true → d ≠ 0 := by
    rintro d hd rfl
    have hpos : 0 < i.low * 10 ^ (-k).toNat := Nat.mul_pos hlow (Nat.pow_pos (by decide))
    rw [Interval.contains] at hd
    split at hd
    · simp only [fractionLt, Nat.zero_mul, hpos, decide_true, Bool.not_true, Bool.false_and] at hd
      cases hd
    · simp [fractionLt] at hd
  simp only [gridPoint?] at h
  split at h
  · cases h
  · next hhit _ => cases h; exact hmiss _ hhit
  · next _ hhit => cases h; exact hmiss _ hhit
  · next hhit _ =>
    have hbelow := hmiss _ hhit
    split at h
    · cases h; exact hbelow
    · split at h
      · cases h; exact Nat.succ_ne_zero _
      · cases h; exact fun hzero ↦ hbelow (Nat.eq_zero_of_add_eq_zero_right hzero)

/-- No more digits are counted before the point than stand there. -/
theorem pow_le_of_lt_pointOf {num den k : Nat} (hk : 0 < k) (h : (k : Int) < pointOf num den) :
    10 ^ k ≤ num / den := by
  rw [pointOf] at h
  split at h
  · refine Nat.le_of_not_lt fun hlt ↦ ?_
    have hlength := Nat.repr_length (num / den) k hk hlt
    omega
  · omega

/-- What is found in an interval above zero is proper. -/
theorem proper_search {i : Interval} (hlow : 0 < i.low) {count more : Nat}
    (hcount : 0 < count + more) : (search i (pointOf i.mid i.den) count more).Proper := by
  induction more generalizing count with
  | zero =>
    rw [search]
    generalize hpoint : pointOf i.mid i.den = point
    intro hdigits
    -- with zeros to put behind, the value would have more digits than `count` before the point
    refine Int.not_lt.mp fun hexponent ↦ ?_
    have hlt : (count : Int) < point := by simpa using hexponent
    have hlarge : 10 ^ (point - 1).toNat ≤ i.mid / i.den :=
      pow_le_of_lt_pointOf (by omega) (by omega)
    rw [show (count - point).toNat = 0 by omega, Nat.pow_zero, Nat.mul_one,
      ← Nat.div_div_eq_div_mul, Nat.div_eq_zero_iff] at hdigits
    rcases hdigits with hzero | hsmall
    · exact absurd hzero (Nat.pow_pos (by decide)).ne'
    · have hpow : 10 ^ (point - count).toNat ≤ 10 ^ (point - 1).toNat :=
        Nat.pow_le_pow_right (by decide) (by omega)
      omega
  | succ more ih =>
    rw [search]
    split
    · next d hd => exact fun hzero ↦ absurd hzero (gridPoint?_ne_zero hlow hd)
    · exact ih (by omega)

/-- Trimming keeps a decimal proper. -/
theorem proper_trim {digits : Nat} {exponent : Int} (h : digits = 0 → exponent ≤ 0) (more : Nat) :
    (trim digits exponent more).Proper := by
  induction more generalizing digits exponent with
  | zero => exact h
  | succ more ih =>
    rw [trim]
    split
    · exact ih fun hzero ↦ by omega
    · exact h

/-- The shortest decimal of a number is proper. -/
theorem proper_shortest (m : Nat) (e : Int) : (shortest m e).Proper := by
  rw [shortest]
  split
  · exact fun _ ↦ le_rfl
  · next hm =>
    have hlow : 0 < (Interval.ofParts m e).low := by
      simp only [Interval.ofParts]
      refine Nat.mul_pos ?_ (Nat.pow_pos (by decide))
      split <;> omega
    exact proper_trim (proper_search hlow (by decide)) 20

end Decimal

/-! ## Their texts -/

theorem Text.toList_pushn (s : String) (c : Char) (n : Nat) :
    (s.pushn c n).toList = s.toList ++ List.replicate n c := by
  rw [String.pushn]
  induction n with
  | zero => simp [Nat.repeat]
  | succ n ih => rw [Nat.repeat, String.toList_push, ih, List.append_assoc, ← List.replicate_succ']

namespace Json

namespace Numeral

/-- A point with digits behind it is read as a fraction. -/
theorem lexFraction_digits {ds rest : List Char} (hds : Digits ds) (hrest : Stops rest) :
    lexFraction ('.' :: (ds ++ rest)) = some (some (ds.map digit), rest) := by
  obtain ⟨d, tail, hmap, hread⟩ := hds.exists_digits_eq hrest
  rw [lexFraction, hread, hmap]

/-- The letter of an exponent with a sign and digits behind it is read as an exponent. -/
theorem lexExponent_digits (negative : Bool) {ds rest : List Char} (hds : Digits ds)
    (hrest : Stops rest) :
    lexExponent ('e' :: (if negative then '-' else '+') :: (ds ++ rest)) =
      some (some (negative, ds.map digit), rest) := by
  obtain ⟨d, tail, hmap, hread⟩ := hds.exists_digits_eq hrest
  cases negative <;> simp [lexExponent, lexExponentDigits, hread, hmap]

/-- Whether a text is a numeral but for a sign in front. -/
def IsUnsigned (cs : List Char) : Prop :=
  ∀ negative, ∃ m, ∀ rest, Ends rest → lexUnsigned negative (cs ++ rest) = some (m, rest)

/-- Digits with a point among them are a numeral. -/
theorem isUnsigned_point {whole fraction : List Char} (hwhole : Digits whole)
    (hlead : Leads whole) (hfraction : Digits fraction) :
    IsUnsigned (whole ++ '.' :: fraction) := by
  intro negative
  refine ⟨⟨negative, whole.map digit, some (fraction.map digit), none⟩, fun rest hrest ↦ ?_⟩
  rw [List.append_assoc, List.cons_append]
  exact lexUnsigned_append negative hwhole hlead (by rintro _ ⟨⟩; rfl)
    (lexFraction_digits hfraction hrest.stops) (lexExponent_of_ends hrest)

/-- Where an exponent begins there is neither a digit nor a fraction. -/
theorem stops_exponent (cs : List Char) : Stops ('e' :: cs) := by
  rintro _ ⟨⟩
  rfl

/-- A digit with an exponent behind it is a numeral, also if there are digits behind a point
between them. -/
theorem isUnsigned_exponent (negative : Bool) {c : Char} {fraction power : List Char}
    (hc : c.isDigit) (hfraction : ∀ d ∈ fraction, d.isDigit) (hpower : Digits power) :
    IsUnsigned (c :: ((if fraction = [] then [] else '.' :: fraction) ++
      'e' :: (if negative then '-' else '+') :: power)) := by
  intro sign
  have hwhole : Digits [c] := ⟨by simp, by simpa using hc⟩
  have hlead : Leads [c] := by simp [Leads]
  have hexponent : ∀ rest, Ends rest →
      lexExponent ('e' :: (if negative then '-' else '+') :: (power ++ rest)) =
        some (some (negative, power.map digit), rest) :=
    fun rest hrest ↦ lexExponent_digits negative hpower hrest.stops
  by_cases hnil : fraction = []
  · refine ⟨⟨sign, [digit c], none, some (negative, power.map digit)⟩, fun rest hrest ↦ ?_⟩
    simpa [hnil] using
      lexUnsigned_append sign hwhole hlead (stops_exponent _) rfl (hexponent rest hrest)
  · refine ⟨⟨sign, [digit c], some (fraction.map digit), some (negative, power.map digit)⟩,
      fun rest hrest ↦ ?_⟩
    simpa [hnil] using
      lexUnsigned_append sign hwhole hlead (by rintro _ ⟨⟩; rfl)
        (lexFraction_digits ⟨hnil, hfraction⟩ (stops_exponent _)) (hexponent rest hrest)

/-- Zeros are digits. -/
theorem isDigit_of_mem_zeros {n : Nat} {c : Char} (hc : c ∈ List.replicate n '0') : c.isDigit := by
  rw [List.eq_of_mem_replicate hc]
  rfl

/-- A proper decimal without an exponent is a numeral. -/
theorem isUnsigned_positional {d : Decimal} (hd : d.Proper) :
    IsUnsigned d.positional.toList := by
  have hdigits : Digits (Nat.toDigits 10 d.digits) := .toDigits _
  have hzero : Digits ['0'] := ⟨by simp, by simp⟩
  rw [Decimal.positional]
  split
  · -- no zeros are put behind a zero, so what stands before the point begins as the digits do
    have hwhole : Digits (Nat.toDigits 10 d.digits ++ List.replicate d.exponent.toNat '0') :=
      ⟨by simp [hdigits.ne_nil], fun c hc ↦
        (List.mem_append.mp hc).elim (hdigits.isDigit c) isDigit_of_mem_zeros⟩
    have hlead : Leads (Nat.toDigits 10 d.digits ++ List.replicate d.exponent.toNat '0') := by
      by_cases hnone : d.digits = 0
      · simpa [Int.toNat_of_nonpos (hd hnone)] using leads_toDigits d.digits
      · obtain ⟨c, ds, hds, hc⟩ := toDigits_eq_cons hnone
        simp [Leads, hds, hc]
    simpa [Text.toList_pushn] using isUnsigned_point hwhole hlead hzero
  · next hexponent =>
    split
    · next hpoint =>
      -- some digits stand before the point and some behind it
      have hlength : (d.digits.repr.length : Int) + d.exponent = d.point := rfl
      rw [← String.length_toList, Nat.toList_repr] at hlength
      have hne : d.digits ≠ 0 := by
        intro hnone
        rw [hnone] at hlength
        change (1 : Int) + d.exponent = d.point at hlength
        omega
      have hwhole : Digits ((Nat.toDigits 10 d.digits).take d.point.toNat) :=
        ⟨List.ne_nil_of_length_pos (by rw [List.length_take]; omega), fun c hc ↦
          hdigits.isDigit c (List.mem_of_mem_take hc)⟩
      have hlead : Leads ((Nat.toDigits 10 d.digits).take d.point.toNat) := by
        obtain ⟨c, ds, hds, hc⟩ := toDigits_eq_cons hne
        obtain ⟨n, hn⟩ : ∃ n, d.point.toNat = n + 1 := ⟨d.point.toNat - 1, by omega⟩
        simp [Leads, hds, hn, hc]
      have hfraction : Digits ((Nat.toDigits 10 d.digits).drop d.point.toNat) :=
        ⟨List.ne_nil_of_length_pos (by rw [List.length_drop]; omega), fun c hc ↦
          hdigits.isDigit c (List.mem_of_mem_drop hc)⟩
      simpa using isUnsigned_point hwhole hlead hfraction
    · have hfraction : Digits (List.replicate (-d.point).toNat '0' ++ Nat.toDigits 10 d.digits) :=
        ⟨by simp [hdigits.ne_nil], fun c hc ↦
          (List.mem_append.mp hc).elim isDigit_of_mem_zeros (hdigits.isDigit c)⟩
      simpa [Text.toList_pushn] using isUnsigned_point hzero (fun _ ↦ rfl) hfraction

/-- A decimal with an exponent is a numeral. -/
theorem isUnsigned_scientific (d : Decimal) : IsUnsigned d.scientific.toList := by
  have hdigits : Digits (Nat.toDigits 10 d.digits) := .toDigits _
  obtain ⟨c, cs, hcs⟩ := List.exists_cons_of_ne_nil hdigits.ne_nil
  have hc : c.isDigit := hdigits.isDigit c (by simp [hcs])
  have hrest : ∀ d ∈ cs, d.isDigit := fun e he ↦ hdigits.isDigit e (by simp [hcs, he])
  have hexponent := isUnsigned_exponent (decide (d.point - 1 < 0)) hc hrest
    (.toDigits (d.point - 1).natAbs)
  have hsign : (if d.point - 1 < 0 then "e-" else "e+").toList =
      ['e', if decide (d.point - 1 < 0) = true then '-' else '+'] := by
    split <;> simp_all
  simp only [Decimal.scientific, String.toList_append, Nat.toList_repr, hcs, hsign]
  cases cs with
  | nil => simpa using hexponent
  | cons e cs => simpa using hexponent

end Numeral

namespace Number

/-- The text of a finite number is a numeral. -/
theorem isNumeral_float {x : Binary64} (h : x.isFinite) : (float x).IsNumeral := by
  match x, h with
  | .finite negative m e _, _ =>
    rw [IsNumeral, print, printFloat]
    obtain ⟨text, hprint, htext⟩ : ∃ text : String,
        (if -5 < (Decimal.shortest m e).point ∧ (Decimal.shortest m e).point ≤ 16 then
          (Decimal.shortest m e).positional else (Decimal.shortest m e).scientific) = text ∧
        Numeral.IsUnsigned text.toList := by
      refine ⟨_, rfl, ?_⟩
      split
      · exact Numeral.isUnsigned_positional (Decimal.proper_shortest m e)
      · exact Numeral.isUnsigned_scientific _
    obtain ⟨n, hn⟩ := htext negative
    refine ⟨n, fun rest hrest ↦ ?_⟩
    simp only [hprint]
    cases negative with
    | false => exact Numeral.lex_of_lexUnsigned (hn rest hrest)
    | true => simpa [Numeral.lex] using hn rest hrest

end Number

end Json

end BearerAuth
