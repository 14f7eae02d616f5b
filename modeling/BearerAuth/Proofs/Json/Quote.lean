import BearerAuth.Json.Printer
import BearerAuth.Json.Reader

/-!
# Texts in JSON texts

A text value is written character by character, each as itself or as an escape, and read piece by
piece.  One character is read as one piece, and that piece joins to the character
(`lexPieces_escape`); so every text value is read as the text that was written (`lexString_quote`).
-/

namespace BearerAuth.Json

/-- Whether a piece stands for a character, whatever pieces follow. -/
def Piece.StandsFor (p : Piece) (c : Char) : Prop :=
  ∀ ps, joinPieces .text (p :: ps) = (joinPieces .text ps).map (c :: ·)

theorem Piece.standsFor_char (c : Char) : (char c).StandsFor c := fun _ ↦ rfl

/-- A code unit that is no half of a pair stands for its character. -/
theorem Piece.standsFor_unit {u : Nat} (hhigh : isHighHalf u = false) (hlow : isLowHalf u = false) :
    (unit u).StandsFor (Char.ofNat u) := by
  intro ps
  match ps with
  | [] => simp [joinPieces, hhigh, hlow]
  | .char c :: ps => simp [joinPieces, hhigh, hlow]
  | .unit v :: ps => simp [joinPieces, hhigh, hlow]

/-- The hexadecimal digits of a control character are read as its code point. -/
theorem hex4?_hexDigit {n : Nat} (h : n < 32) :
    hex4? '0' '0' (hexDigit (n / 16)) (hexDigit (n % 16)) = some n := by
  have all : ∀ n : Fin 32, hex4? '0' '0' (hexDigit (n / 16)) (hexDigit (n % 16)) = some n.val := by
    decide
  exact all ⟨n, h⟩

/-- Whether a character is a piece of a text value by itself. -/
def IsPlain (c : Char) : Prop := c ≠ '"' ∧ ¬(c < ' ' ∨ c = '\\')

theorem lexPieces_cons_of_isPlain {c : Char} (h : IsPlain c) (cs : List Char) :
    lexPieces (c :: cs) = (lexPieces cs).map fun (ps, rest) ↦ (.char c :: ps, rest) := by
  obtain ⟨hquote, hplain⟩ := h
  rw [lexPieces, if_neg hplain]
  · cases lexPieces cs <;> rfl
  · exact hquote
  · rintro a b c d rest rfl -; exact hplain (.inr rfl)
  · rintro e rest rfl -; exact hplain (.inr rfl)

/-- A character is written as what is read as one piece that stands for it. -/
theorem lexPieces_escape (c : Char) :
    ∃ p : Piece, p.StandsFor c ∧
      ∀ cs, lexPieces (escape c ++ cs) = (lexPieces cs).map fun (ps, rest) ↦ (p :: ps, rest) := by
  by_cases hshort : c ∈ ['"', '\\', '\x08', '\x0c', '\n', '\r', '\t']
  · refine ⟨.char c, Piece.standsFor_char c, fun cs ↦ ?_⟩
    simp only [List.mem_cons, List.not_mem_nil, or_false] at hshort
    rcases hshort with rfl | rfl | rfl | rfl | rfl | rfl | rfl <;>
      cases h : lexPieces cs <;> simp [escape, lexPieces, shortEscape?, h]
  · simp only [List.mem_cons, List.not_mem_nil, or_false, not_or] at hshort
    obtain ⟨hquote, hslash, hb, hf, hn, hr, ht⟩ := hshort
    by_cases hcontrol : c < ' '
    · have hlt : c.toNat < 32 := hcontrol
      refine ⟨.unit c.toNat, ?_, fun cs ↦ ?_⟩
      · have hunit := Piece.standsFor_unit (u := c.toNat)
          (by rw [isHighHalf, decide_eq_false (by omega), Bool.false_and])
          (by rw [isLowHalf, decide_eq_false (by omega), Bool.false_and])
        rwa [Char.ofNat_toNat] at hunit
      · have hescape : escape c =
            ['\\', 'u', '0', '0', hexDigit (c.toNat / 16), hexDigit (c.toNat % 16)] := by
          simp [escape, hquote, hslash, hb, hf, hn, hr, ht, hcontrol]
        cases h : lexPieces cs <;> simp [hescape, lexPieces, hex4?_hexDigit hlt, h]
    · refine ⟨.char c, Piece.standsFor_char c, fun cs ↦ ?_⟩
      have hescape : escape c = [c] := by
        simp [escape, hquote, hslash, hb, hf, hn, hr, ht, hcontrol]
      have hplain : IsPlain c := ⟨hquote, not_or.mpr ⟨hcontrol, hslash⟩⟩
      rw [hescape, List.singleton_append, lexPieces_cons_of_isPlain hplain]

/-- The characters between the quotes are read as pieces that join to them. -/
theorem lexPieces_flatMap_escape (cs rest : List Char) :
    ∃ ps, lexPieces (cs.flatMap escape ++ '"' :: rest) = some (ps, rest) ∧
      joinPieces .text ps = some cs := by
  induction cs with
  | nil => exact ⟨[], rfl, rfl⟩
  | cons c cs ih =>
    obtain ⟨ps, hread, hjoin⟩ := ih
    obtain ⟨p, hp, hstep⟩ := lexPieces_escape c
    refine ⟨p :: ps, ?_, ?_⟩
    · rw [List.flatMap_cons, List.append_assoc, hstep, hread, Option.map_some]
    · rw [hp, hjoin, Option.map_some]

/-- A text value is read as the text that was written. -/
theorem lexString_quote (s : String) (rest : List Char) :
    lexString .text (s.toList.flatMap escape ++ '"' :: rest) = some (some s, rest) := by
  obtain ⟨ps, hread, hjoin⟩ := lexPieces_flatMap_escape s.toList rest
  simp [lexString, hread, hjoin]

end BearerAuth.Json
