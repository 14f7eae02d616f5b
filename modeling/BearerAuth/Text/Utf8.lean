/-!
# Texts as bytes

The bytes of a text and the text of bytes, inverse to each other.  A character of ASCII is one byte,
and the bytes of all other characters are beyond ASCII (`le_of_mem_utf8EncodeChar`).
-/

namespace BearerAuth.Text

/-- The bytes of a text in UTF-8. -/
def toBytes (s : String) : List UInt8 := s.toUTF8.data.toList

/-- The text of some bytes, if they are UTF-8. -/
def ofBytes? (bytes : List UInt8) : Option String := String.fromUTF8? ⟨bytes.toArray⟩

/-- The bytes of a text are read back as that text. -/
@[simp] theorem ofBytes?_toBytes (s : String) : ofBytes? (toBytes s) = some s := by
  have hbytes : (⟨(toBytes s).toArray⟩ : ByteArray) = s.toUTF8 := by simp [toBytes]
  rw [ofBytes?, hbytes, String.fromUTF8?, String.toUTF8_eq_toByteArray, dif_pos s.isValidUTF8]
  rfl

/-- Bytes that are read as a text are the bytes of that text. -/
theorem toBytes_of_ofBytes? {bytes : List UInt8} {s : String} (h : ofBytes? bytes = some s) :
    toBytes s = bytes := by
  rw [ofBytes?, String.fromUTF8?] at h
  split at h
  · cases h; rfl
  · cases h

/-- Different texts have different bytes. -/
theorem toBytes_injective {s t : String} (h : toBytes s = toBytes t) : s = t := by
  have hs := ofBytes?_toBytes s
  rw [h, ofBytes?_toBytes] at hs
  exact (Option.some.inj hs).symm

/-! ## Characters as bytes -/

/-- The bytes of a text are those of its characters, one character after the other. -/
theorem toBytes_eq_flatMap (s : String) : toBytes s = s.toList.flatMap String.utf8EncodeChar := by
  have hlist : (String.ofList s.toList).toByteArray = s.toList.utf8Encode := rfl
  rw [String.ofList_toList] at hlist
  rw [toBytes, String.toUTF8_eq_toByteArray, hlist]
  exact List.toList_data_toByteArray

/-- A character of ASCII is one byte. -/
theorem utf8EncodeChar_of_lt {c : Char} (h : c.toNat < 128) :
    String.utf8EncodeChar c = [UInt8.ofNat c.toNat] := by
  have hsize : c.utf8Size = 1 :=
    Char.utf8Size_eq_one_iff.mpr (UInt32.le_iff_toNat_le.mpr (Nat.le_of_lt_succ h))
  exact String.utf8EncodeChar_eq_singleton hsize

/-- A byte with its highest bit set. -/
theorem le_toNat_or {high : UInt8} (h : 128 ≤ high.toNat) (b : UInt8) :
    128 ≤ (b ||| high).toNat := by
  rw [UInt8.toNat_or]
  exact Nat.le_trans h Nat.right_le_or

/-- All bytes of any other character are beyond ASCII. -/
theorem le_of_mem_utf8EncodeChar {c : Char} (h : 128 ≤ c.toNat) {b : UInt8}
    (hb : b ∈ String.utf8EncodeChar c) : 128 ≤ b.toNat := by
  obtain h1 | h2 | h3 | h4 := Char.utf8Size_eq c
  · have hle := UInt32.le_iff_toNat_le.mp (Char.utf8Size_eq_one_iff.mp h1)
    exact absurd (Nat.le_trans h hle) (by decide)
  · rw [String.utf8EncodeChar_eq_cons_cons h2] at hb
    simp only [List.mem_cons, List.not_mem_nil, or_false] at hb
    rcases hb with rfl | rfl <;> exact le_toNat_or (by decide) _
  · rw [String.utf8EncodeChar_eq_cons_cons_cons h3] at hb
    simp only [List.mem_cons, List.not_mem_nil, or_false] at hb
    rcases hb with rfl | rfl | rfl <;> exact le_toNat_or (by decide) _
  · rw [String.utf8EncodeChar_eq_cons_cons_cons_cons h4] at hb
    simp only [List.mem_cons, List.not_mem_nil, or_false] at hb
    rcases hb with rfl | rfl | rfl | rfl <;> exact le_toNat_or (by decide) _

end BearerAuth.Text
