import BearerAuth.Json.Printer
import BearerAuth.Json.Reader

/-!
# Whole numbers in JSON texts

A whole number is written in decimal digits, behind a minus sign if it is negative.  Whatever
follows it in a JSON text is no part of a numeral, so the numeral is read up to its end
(`lex_repr`), and a number of 64 bits is read as itself (`value_ofInt`).
-/

namespace BearerAuth.Json

namespace Numeral

/-! ## Digits -/

/-- Whether no digit stands in front of a text. -/
def Stops (cs : List Char) : Prop := ∀ c ∈ cs.head?, digit? c = none

/-- Whether the numeral in front of a text ends where the text begins. -/
def Ends : List Char → Prop
  | [] => True
  | c :: _ => digit? c = none ∧ c ≠ '.' ∧ c ≠ 'e' ∧ c ≠ 'E'

/-- Where a numeral ends there is no digit. -/
theorem Ends.stops {cs : List Char} (h : Ends cs) : Stops cs := by
  cases cs with
  | nil => exact nofun
  | cons c cs => rintro _ ⟨⟩; exact h.1

/-- The value of a character that is a digit. -/
def digit (c : Char) : Nat := c.toNat - '0'.toNat

theorem mem_range_of_isDigit {c : Char} (h : c.isDigit) : '0' ≤ c ∧ c ≤ '9' := by
  simpa [Char.isDigit, Char.le_def] using h

theorem digit?_of_isDigit {c : Char} (h : c.isDigit) : digit? c = some (digit c) := by
  rw [digit?, if_pos (mem_range_of_isDigit h), digit]

/-- The only digit that counts nothing is zero. -/
theorem digit_eq_zero_iff {c : Char} (h : c.isDigit) : digit c = 0 ↔ c = '0' := by
  have hlow : 48 ≤ c.toNat := UInt32.le_iff_toNat_le.mp (mem_range_of_isDigit h).1
  constructor
  · intro hzero
    have hnat : c.toNat = '0'.toNat := by
      change c.toNat - 48 = 0 at hzero
      change c.toNat = 48
      omega
    exact Char.toNat_inj.mp hnat
  · rintro rfl
    rfl

/-- Digits are read up to where they end. -/
theorem digits_append {ds rest : List Char} (hds : ∀ c ∈ ds, c.isDigit) (hrest : Stops rest) :
    digits (ds ++ rest) = (ds.map digit, rest) := by
  induction ds with
  | nil =>
    cases rest with
    | nil => rfl
    | cons c rest => simp [digits, hrest c rfl]
  | cons c ds ih =>
    have hc : digit? c = some (digit c) := digit?_of_isDigit (hds c (by simp))
    simp [digits, hc, ih fun d hd ↦ hds d (by simp [hd])]

/-- Whether a text consists of digits, at least one. -/
structure Digits (cs : List Char) : Prop where
  /-- There is a digit. -/
  ne_nil : cs ≠ []
  /-- There is nothing else. -/
  isDigit : ∀ c ∈ cs, c.isDigit

/-- A number is written in digits. -/
theorem Digits.toDigits (n : Nat) : Digits (Nat.toDigits 10 n) where
  ne_nil := Nat.toDigits_ne_nil
  isDigit _ hc := Nat.isDigit_of_mem_toDigits (by decide) (by decide) hc

/-- Digits are read up to where they end, and there is one. -/
theorem Digits.exists_digits_eq {ds rest : List Char} (hds : Digits ds) (hrest : Stops rest) :
    ∃ d tail, ds.map digit = d :: tail ∧ digits (ds ++ rest) = (d :: tail, rest) := by
  obtain ⟨c, cs, rfl⟩ := List.exists_cons_of_ne_nil hds.ne_nil
  exact ⟨_, _, rfl, digits_append hds.isDigit hrest⟩

/-- The number of the digits that a number is written with is that number. -/
theorem ofDigits_toDigits (n : Nat) : ofDigits ((Nat.toDigits 10 n).map digit) = n := by
  have hfold : ∀ (l : List Char) (k : Nat),
      (l.map digit).foldl (fun n d ↦ n * 10 + d) k = Nat.ofDigitChars 10 l k := by
    intro l
    induction l with
    | nil => intro k; rfl
    | cons c l ih =>
      intro k
      rw [List.map_cons, List.foldl_cons, ih, Nat.ofDigitChars_cons, Nat.mul_comm k 10, digit]
  rw [ofDigits, hfold, Nat.ofDigitChars_ten_toDigits]

/-- A number other than zero does not begin with the digit zero. -/
theorem toDigits_eq_cons {n : Nat} (hn : n ≠ 0) :
    ∃ c ds, Nat.toDigits 10 n = c :: ds ∧ c ≠ '0' := by
  induction n using Nat.strongRecOn with
  | ind n ih =>
    by_cases hlt : n < 10
    · refine ⟨n.digitChar, [], Nat.toDigits_of_lt_base hlt, fun hzero ↦ hn ?_⟩
      have hnat := Nat.toNat_digitChar_of_lt_ten hlt
      rw [hzero] at hnat
      change 48 = 48 + n at hnat
      omega
    · obtain ⟨c, ds, hds, hc⟩ := ih (n / 10) (by omega) (by omega)
      refine ⟨c, ds ++ [(n % 10).digitChar], ?_, hc⟩
      rw [Nat.toDigits_of_base_le (by decide) (by omega), hds, List.cons_append]

/-- Whether digits may begin a numeral: a zero in front stands alone. -/
def Leads (cs : List Char) : Prop := cs.head? = some '0' → cs = ['0']

/-- The digits of a number may begin a numeral. -/
theorem leads_toDigits (n : Nat) : Leads (Nat.toDigits 10 n) := by
  intro hhead
  by_cases hn : n = 0
  · subst hn; rfl
  · obtain ⟨c, ds, hds, hc⟩ := toDigits_eq_cons hn
    rw [hds] at hhead
    exact absurd (Option.some.inj hhead) hc

/-! ## Numerals -/

/-- The numeral of a whole number. -/
def ofInt (n : Int) : Numeral := ⟨n < 0, (Nat.toDigits 10 n.natAbs).map digit, none, none⟩

/-- Where a numeral ends there is no fraction. -/
theorem lexFraction_of_ends {rest : List Char} (hrest : Ends rest) :
    lexFraction rest = some (none, rest) := by
  cases rest with
  | nil => rfl
  | cons c rest => rw [lexFraction]; rintro tail ⟨⟩; exact hrest.2.1 rfl

/-- Where a numeral ends there is no exponent. -/
theorem lexExponent_of_ends {rest : List Char} (hrest : Ends rest) :
    lexExponent rest = some (none, rest) := by
  cases rest with
  | nil => rfl
  | cons c rest => simp [lexExponent, hrest.2.2]

/-- Digits in front are read together with the fraction and the exponent behind them. -/
theorem lexUnsigned_append (negative : Bool) {whole tail exponential rest : List Char}
    {fraction : Option (List Nat)} {exponent : Option (Bool × List Nat)}
    (hwhole : Digits whole) (hlead : Leads whole) (hstops : Stops tail)
    (hfraction : lexFraction tail = some (fraction, exponential))
    (hexponent : lexExponent exponential = some (exponent, rest)) :
    lexUnsigned negative (whole ++ tail) =
      some (⟨negative, whole.map digit, fraction, exponent⟩, rest) := by
  obtain ⟨c, cs, rfl⟩ := List.exists_cons_of_ne_nil hwhole.ne_nil
  have hread := digits_append hwhole.isDigit hstops
  have hzero : digit c = 0 → cs = [] := fun h ↦ by
    obtain rfl := (digit_eq_zero_iff (hwhole.isDigit c (by simp))).mp h
    simpa using hlead rfl
  rw [lexUnsigned, hread, List.map_cons]
  generalize digit c = d at hzero
  cases d with
  | zero => simp [hzero rfl, hfraction, hexponent]
  | succ d => simp [hfraction, hexponent]

/-- The digits of a number are read as its numeral. -/
theorem lexUnsigned_toDigits (negative : Bool) (n : Nat) {rest : List Char} (hrest : Ends rest) :
    lexUnsigned negative (Nat.toDigits 10 n ++ rest) =
      some (⟨negative, (Nat.toDigits 10 n).map digit, none, none⟩, rest) :=
  lexUnsigned_append negative (.toDigits n) (leads_toDigits n) hrest.stops
    (lexFraction_of_ends hrest) (lexExponent_of_ends hrest)

/-- A text that is read as a numeral without a sign is read so from its beginning. -/
theorem lex_of_lexUnsigned {cs : List Char} {p : Numeral × List Char}
    (h : lexUnsigned false cs = some p) : lex cs = some p := by
  cases cs with
  | nil => exact h
  | cons c cs =>
    rw [lex]
    · exact h
    · rintro rest ⟨⟩
      simp [lexUnsigned, digits, digit?] at h

/-- A whole number is read up to where it ends. -/
theorem lex_repr (n : Int) {rest : List Char} (hrest : Ends rest) :
    lex (n.repr.toList ++ rest) = some (ofInt n, rest) := by
  rw [Int.repr_eq_if]
  split
  · next hn =>
    rw [Nat.toList_repr, lex_of_lexUnsigned (lexUnsigned_toDigits false n.toNat hrest), ofInt,
      decide_eq_false (by omega), show n.natAbs = n.toNat by omega]
  · next hn =>
    rw [String.toList_append, Nat.toList_repr]
    change lexUnsigned true (Nat.toDigits 10 (-n).toNat ++ rest) = _
    rw [lexUnsigned_toDigits true (-n).toNat hrest, ofInt, decide_eq_true (by omega),
      show n.natAbs = (-n).toNat by omega]

/-- A whole number of 64 bits, with or without a sign, is read as itself. -/
theorem value_ofInt {n : Int} (hlow : -2 ^ 63 ≤ n) (hhigh : n < 2 ^ 64) :
    (ofInt n).value = some (.integer n) := by
  by_cases hn : n < 0
  · have hrange : 0 < n.natAbs ∧ n.natAbs ≤ 2 ^ 63 := by omega
    simp only [value, ofInt, ofDigits_toDigits, hn, decide_true, if_true, hrange, and_self,
      Option.some.injEq, Number.integer.injEq]
    omega
  · have hrange : n.natAbs ≤ maxGathered := by rw [maxGathered]; omega
    simp only [value, ofInt, ofDigits_toDigits, hn, decide_false, if_false, Bool.false_eq_true,
      hrange, if_true, Option.some.injEq, Number.integer.injEq]
    omega

end Numeral

namespace Number

/-- The number that the text of a number is read as. -/
def reread (n : Number) : Option Number := (Numeral.lex n.print.toList).bind fun p ↦ p.1.value

/-- Whether the text of a number is a numeral, which is read up to where it ends. -/
def IsNumeral (n : Number) : Prop :=
  ∃ m : Numeral, ∀ rest, Numeral.Ends rest → Numeral.lex (n.print.toList ++ rest) = some (m, rest)

/-- A number whose text is a numeral is read as the value of that numeral. -/
theorem IsNumeral.lex_eq {n : Number} (h : n.IsNumeral) :
    ∃ m : Numeral, m.value = n.reread ∧
      ∀ rest, Numeral.Ends rest → Numeral.lex (n.print.toList ++ rest) = some (m, rest) := by
  obtain ⟨m, hm⟩ := h
  have halone : Numeral.lex n.print.toList = some (m, []) := by simpa using hm [] trivial
  exact ⟨m, by rw [reread, halone]; rfl, hm⟩

theorem isNumeral_integer (n : Int) : (integer n).IsNumeral :=
  ⟨.ofInt n, fun _ hrest ↦ Numeral.lex_repr n hrest⟩

/-- A whole number of 64 bits is read as it was written. -/
theorem reread_integer {n : Int} (hlow : -2 ^ 63 ≤ n) (hhigh : n < 2 ^ 64) :
    (integer n).reread = some (integer n) := by
  have halone : Numeral.lex n.repr.toList = some (.ofInt n, []) := by
    have hends : Numeral.Ends [] := trivial
    simpa using Numeral.lex_repr n hends
  rw [reread, print, halone, Option.bind_some, Numeral.value_ofInt hlow hhigh]

end Number

end BearerAuth.Json
