/-!
# Base 64

Three bytes are written as four digits of six bits each; one or two bytes left over are written as
two or three digits whose last bits are zero.  There are two alphabets, one of them safe in URLs.
Reading is strict: a digit of neither alphabet, a lone last digit and last bits that are not zero
are refused, so each list of bytes has one text (`decode?_eq_some_iff`).
-/

namespace BearerAuth.Base64

/-- The two alphabets. -/
inductive Alphabet where
  /-- Ends in `+` and `/`. -/
  | standard
  /-- Ends in `-` and `_`. -/
  | url
  deriving DecidableEq, Repr

/-- The digit of a number below 64. -/
def Alphabet.digit (t : Alphabet) (n : Nat) : Char :=
  if n < 26 then Char.ofNat ('A'.toNat + n)
  else if n < 52 then Char.ofNat ('a'.toNat + (n - 26))
  else if n < 62 then Char.ofNat ('0'.toNat + (n - 52))
  else match t with
    | .standard => if n = 62 then '+' else '/'
    | .url => if n = 62 then '-' else '_'

/-- The number of a digit. -/
def Alphabet.value? (t : Alphabet) (c : Char) : Option Nat :=
  if 'A' ≤ c ∧ c ≤ 'Z' then some (c.toNat - 'A'.toNat)
  else if 'a' ≤ c ∧ c ≤ 'z' then some (c.toNat - 'a'.toNat + 26)
  else if '0' ≤ c ∧ c ≤ '9' then some (c.toNat - '0'.toNat + 52)
  else match t with
    | .standard => if c = '+' then some 62 else if c = '/' then some 63 else none
    | .url => if c = '-' then some 62 else if c = '_' then some 63 else none

/-- Each digit stands for its number. -/
theorem Alphabet.value?_digit (t : Alphabet) {n : Nat} (h : n < 64) :
    t.value? (t.digit n) = some n := by
  have all : ∀ n : Fin 64, t.value? (t.digit n) = some n.val := by cases t <;> decide
  exact all ⟨n, h⟩

/-- Only a digit has a number, and it is the digit of this number. -/
theorem Alphabet.digit_of_value? {t : Alphabet} {c : Char} {n : Nat} (h : t.value? c = some n) :
    n < 64 ∧ t.digit n = c := by
  have hrange (a b : Char) : a ≤ c ∧ c ≤ b ↔ a.toNat ≤ c.toNat ∧ c.toNat ≤ b.toNat := Iff.rfl
  simp only [value?, hrange, Char.reduceToNat] at h
  unfold digit
  split at h
  · next hc =>
    obtain rfl := Option.some.inj h
    have hn : 65 + (c.toNat - 65) = c.toNat := by omega
    rw [if_pos (by omega)]
    simp only [Char.reduceToNat, hn, Char.ofNat_toNat, and_true]
    omega
  split at h
  · next hc =>
    obtain rfl := Option.some.inj h
    have hn : 97 + (c.toNat - 97 + 26 - 26) = c.toNat := by omega
    rw [if_neg (by omega), if_pos (by omega)]
    simp only [Char.reduceToNat, hn, Char.ofNat_toNat, and_true]
    omega
  split at h
  · next hc =>
    obtain rfl := Option.some.inj h
    have hn : 48 + (c.toNat - 48 + 52 - 52) = c.toNat := by omega
    rw [if_neg (by omega), if_neg (by omega), if_pos (by omega)]
    simp only [Char.reduceToNat, hn, Char.ofNat_toNat, and_true]
    omega
  cases t with
  | standard | url =>
    simp only at h
    split at h
    · next hc => cases h; exact ⟨by decide, hc.symm⟩
    · split at h
      · next hc => cases h; exact ⟨by decide, hc.symm⟩
      · cases h

/-- The digits of some bytes. -/
def encode (t : Alphabet) : List UInt8 → List Char
  | a :: b :: c :: rest =>
    let n := a.toNat * 65536 + b.toNat * 256 + c.toNat
    t.digit (n / 262144) :: t.digit (n / 4096 % 64) :: t.digit (n / 64 % 64) :: t.digit (n % 64) ::
      encode t rest
  | [a, b] =>
    let n := a.toNat * 1024 + b.toNat * 4
    [t.digit (n / 4096), t.digit (n / 64 % 64), t.digit (n % 64)]
  | [a] =>
    let n := a.toNat * 16
    [t.digit (n / 64), t.digit (n % 64)]
  | [] => []

/-- The bytes of some digits. -/
def decode? (t : Alphabet) : List Char → Option (List UInt8)
  | a :: b :: c :: d :: rest => do
    let a ← t.value? a
    let b ← t.value? b
    let c ← t.value? c
    let d ← t.value? d
    let n := a * 262144 + b * 4096 + c * 64 + d
    let bytes ← decode? t rest
    return UInt8.ofNat (n / 65536) :: UInt8.ofNat (n / 256 % 256) :: UInt8.ofNat (n % 256) :: bytes
  | [a, b, c] => do
    let a ← t.value? a
    let b ← t.value? b
    let c ← t.value? c
    let n := a * 4096 + b * 64 + c
    if n % 4 = 0 then some [UInt8.ofNat (n / 1024), UInt8.ofNat (n / 4 % 256)] else none
  | [a, b] => do
    let a ← t.value? a
    let b ← t.value? b
    let n := a * 64 + b
    if n % 16 = 0 then some [UInt8.ofNat (n / 16)] else none
  | [_] => none
  | [] => some []

/-- The bytes of digits that are filled up with `=` to a multiple of four. -/
def decodePadded? (t : Alphabet) (cs : List Char) : Option (List UInt8) :=
  if cs.length % 4 ≠ 0 then none else
    let digits := (cs.reverse.dropWhile (· = '=')).reverse
    if cs.length - digits.length = (4 - digits.length % 4) % 4 then decode? t digits else none

/-- Reading inverts writing. -/
theorem decode?_encode (t : Alphabet) (l : List UInt8) : decode? t (encode t l) = some l := by
  fun_induction encode t l with
  | case1 a b c rest n ih =>
    have ha := a.toNat_lt
    have hb := b.toNat_lt
    have hc := c.toNat_lt
    have hn : n / 262144 * 262144 + n / 4096 % 64 * 4096 + n / 64 % 64 * 64 + n % 64 = n := by omega
    simp only [decode?, t.value?_digit (show n / 262144 < 64 by omega),
      t.value?_digit (show n / 4096 % 64 < 64 by omega),
      t.value?_digit (show n / 64 % 64 < 64 by omega),
      t.value?_digit (show n % 64 < 64 by omega), ih, Option.bind_eq_bind, Option.bind_some, hn]
    have h1 : n / 65536 = a.toNat := by omega
    have h2 : n / 256 % 256 = b.toNat := by omega
    have h3 : n % 256 = c.toNat := by omega
    simp [h1, h2, h3]
  | case2 a b n =>
    have ha := a.toNat_lt
    have hb := b.toNat_lt
    have hn : n / 4096 * 4096 + n / 64 % 64 * 64 + n % 64 = n := by omega
    simp only [decode?, t.value?_digit (show n / 4096 < 64 by omega),
      t.value?_digit (show n / 64 % 64 < 64 by omega),
      t.value?_digit (show n % 64 < 64 by omega), Option.bind_eq_bind, Option.bind_some, hn]
    have h0 : n % 4 = 0 := by omega
    have h1 : n / 1024 = a.toNat := by omega
    have h2 : n / 4 % 256 = b.toNat := by omega
    simp [h0, h1, h2]
  | case3 a n =>
    have ha := a.toNat_lt
    have hn : n / 64 * 64 + n % 64 = n := by omega
    simp only [decode?, t.value?_digit (show n / 64 < 64 by omega),
      t.value?_digit (show n % 64 < 64 by omega), Option.bind_eq_bind, Option.bind_some, hn]
    have h0 : n % 16 = 0 := by omega
    have h1 : n / 16 = a.toNat := by omega
    simp [h0, h1]
  | case4 => rfl

/-- What is read is written with the same digits. -/
theorem encode_of_decode? {t : Alphabet} {cs : List Char} {l : List UInt8}
    (h : decode? t cs = some l) : encode t l = cs := by
  fun_induction decode? t cs generalizing l with
  | case1 a b c d rest ih =>
    obtain ⟨x, hx, h⟩ := Option.bind_eq_some_iff.mp h
    obtain ⟨y, hy, h⟩ := Option.bind_eq_some_iff.mp h
    obtain ⟨z, hz, h⟩ := Option.bind_eq_some_iff.mp h
    obtain ⟨w, hw, h⟩ := Option.bind_eq_some_iff.mp h
    obtain ⟨bytes, hbytes, h⟩ := Option.bind_eq_some_iff.mp h
    obtain rfl := Option.some.inj h
    obtain ⟨hx, rfl⟩ := Alphabet.digit_of_value? hx
    obtain ⟨hy, rfl⟩ := Alphabet.digit_of_value? hy
    obtain ⟨hz, rfl⟩ := Alphabet.digit_of_value? hz
    obtain ⟨hw, rfl⟩ := Alphabet.digit_of_value? hw
    let n := x * 262144 + y * 4096 + z * 64 + w
    have hn : (UInt8.ofNat (n / 65536)).toNat * 65536 + (UInt8.ofNat (n / 256 % 256)).toNat * 256 +
        (UInt8.ofNat (n % 256)).toNat = n := by
      rw [UInt8.toNat_ofNat', UInt8.toNat_ofNat', UInt8.toNat_ofNat']
      omega
    have h1 : n / 262144 = x := by omega
    have h2 : n / 4096 % 64 = y := by omega
    have h3 : n / 64 % 64 = z := by omega
    have h4 : n % 64 = w := by omega
    simp only [encode, n, hn, h1, h2, h3, h4, ih hbytes]
  | case2 a b c =>
    obtain ⟨x, hx, h⟩ := Option.bind_eq_some_iff.mp h
    obtain ⟨y, hy, h⟩ := Option.bind_eq_some_iff.mp h
    obtain ⟨z, hz, h⟩ := Option.bind_eq_some_iff.mp h
    dsimp only at h
    split at h
    · next hlast =>
      obtain rfl := Option.some.inj h
      obtain ⟨hx, rfl⟩ := Alphabet.digit_of_value? hx
      obtain ⟨hy, rfl⟩ := Alphabet.digit_of_value? hy
      obtain ⟨hz, rfl⟩ := Alphabet.digit_of_value? hz
      let n := x * 4096 + y * 64 + z
      have hn : (UInt8.ofNat (n / 1024)).toNat * 1024 + (UInt8.ofNat (n / 4 % 256)).toNat * 4 =
          n := by
        rw [UInt8.toNat_ofNat', UInt8.toNat_ofNat']
        omega
      have h1 : n / 4096 = x := by omega
      have h2 : n / 64 % 64 = y := by omega
      have h3 : n % 64 = z := by omega
      simp only [encode, n, hn, h1, h2, h3]
    · cases h
  | case3 a b =>
    obtain ⟨x, hx, h⟩ := Option.bind_eq_some_iff.mp h
    obtain ⟨y, hy, h⟩ := Option.bind_eq_some_iff.mp h
    dsimp only at h
    split at h
    · next hlast =>
      obtain rfl := Option.some.inj h
      obtain ⟨hx, rfl⟩ := Alphabet.digit_of_value? hx
      obtain ⟨hy, rfl⟩ := Alphabet.digit_of_value? hy
      let n := x * 64 + y
      have hn : (UInt8.ofNat (n / 16)).toNat * 16 = n := by
        rw [UInt8.toNat_ofNat']
        omega
      have h1 : n / 64 = x := by omega
      have h2 : n % 64 = y := by omega
      simp only [encode, n, hn, h1, h2]
    · cases h
  | case4 => cases h
  | case5 => cases h; rfl

/-- The digits of some bytes are the one text that is read as these bytes. -/
theorem decode?_eq_some_iff {t : Alphabet} {cs : List Char} {l : List UInt8} :
    decode? t cs = some l ↔ cs = encode t l :=
  ⟨fun h ↦ (encode_of_decode? h).symm, fun h ↦ h ▸ decode?_encode t l⟩

/-- Three bytes have four digits; one byte left over has two, and two have three. -/
theorem length_encode (t : Alphabet) (l : List UInt8) :
    (encode t l).length = (4 * l.length + 2) / 3 := by
  fun_induction encode t l with
  | case1 a b c rest n ih =>
    simp only [List.length_cons, ih]
    omega
  | case2 a b n => simp
  | case3 a n => simp
  | case4 => rfl

/-- What is written are digits. -/
theorem forall_mem_encode (t : Alphabet) (l : List UInt8) :
    ∀ c ∈ encode t l, t.value? c ≠ none := by
  have hdigit {n : Nat} (hn : n < 64) : t.value? (t.digit n) ≠ none := by
    rw [t.value?_digit hn]
    nofun
  fun_induction encode t l with
  | case1 a b c rest n ih =>
    have ha := a.toNat_lt
    have hb := b.toNat_lt
    have hc := c.toNat_lt
    simp only [List.forall_mem_cons]
    exact ⟨hdigit (by omega), hdigit (by omega), hdigit (by omega), hdigit (by omega), ih⟩
  | case2 a b n =>
    have ha := a.toNat_lt
    have hb := b.toNat_lt
    simp only [List.forall_mem_cons]
    exact ⟨hdigit (by omega), hdigit (by omega), hdigit (by omega), nofun⟩
  | case3 a n =>
    have ha := a.toNat_lt
    simp only [List.forall_mem_cons]
    exact ⟨hdigit (by omega), hdigit (by omega), nofun⟩
  | case4 => nofun

end BearerAuth.Base64
