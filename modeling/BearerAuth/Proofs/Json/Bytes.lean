import BearerAuth.Proofs.Json.RoundTrip
import Mathlib.Data.List.DropRight

/-!
# Reading the bytes of a text

The parts of a JSON document are told apart by characters of ASCII, and each of these is one byte
that occurs in the bytes of no other character.  So the bytes of a text are split where the text is
split: every reader, given what a text is spelled as, reads the same and stops where it stops in the
text.  What a document of bytes holds between two quotes is then the bytes of what the text holds
there (`joinPieces_spelled`), and a document is read from the bytes of its text as it is read from
the text (`ofBytes?_toBytes`).
-/

namespace BearerAuth.Json

/-- What the characters of a text are spelled as in a document of bytes. -/
def spelled (cs : List Char) : List Char := cs.flatMap Coding.bytes.spell

@[simp] theorem spelled_nil : spelled [] = [] := rfl

theorem spelled_cons (c : Char) (cs : List Char) :
    spelled (c :: cs) = Coding.bytes.spell c ++ spelled cs := rfl

/-! ## Bytes as characters -/

theorem toNat_ofUInt8 (b : UInt8) : (Char.ofUInt8 b).toNat = b.toNat := UInt8.toNat_toUInt32 b

theorem toUInt8_ofUInt8 (b : UInt8) : (Char.ofUInt8 b).toUInt8 = b := UInt8.toUInt8_toUInt32 b

/-- A character of ASCII is spelled as itself. -/
theorem spell_of_lt {c : Char} (h : c.toNat < 128) : Coding.bytes.spell c = [c] := by
  have hself : Char.ofUInt8 (UInt8.ofNat c.toNat) = c :=
    Char.toNat_inj.mp (by simp only [toNat_ofUInt8, UInt8.toNat_ofNat']; omega)
  rw [Coding.spell_bytes, Text.utf8EncodeChar_of_lt h, List.map_singleton, hself]

/-- No character is spelled as nothing. -/
theorem spell_ne_nil (c : Char) : Coding.bytes.spell c ≠ [] := fun h ↦
  String.utf8EncodeChar_ne_nil (List.map_eq_nil_iff.mp h)

/-- Any other character is spelled without a character of ASCII. -/
theorem le_of_mem_spell {c : Char} (h : 128 ≤ c.toNat) {d : Char} (hd : d ∈ Coding.bytes.spell c) :
    128 ≤ d.toNat := by
  obtain ⟨b, hb, rfl⟩ := List.mem_map.mp hd
  rw [toNat_ofUInt8]
  exact Text.le_of_mem_utf8EncodeChar h hb

/-- The bytes of a text, each as the character of its number. -/
theorem map_ofUInt8_toBytes (s : String) :
    (Text.toBytes s).map Char.ofUInt8 = spelled s.toList := by
  rw [Text.toBytes_eq_flatMap, List.map_flatMap]
  rfl

/-- What is spelled in UTF-8 is the text of the spelled characters. -/
theorem text?_spelled (cs : List Char) :
    Coding.bytes.text? (spelled cs) = some (String.ofList cs) := by
  have hbytes := map_ofUInt8_toBytes (String.ofList cs)
  rw [String.toList_ofList] at hbytes
  have hid : Char.toUInt8 ∘ Char.ofUInt8 = id := funext toUInt8_ofUInt8
  rw [← hbytes, Coding.text?_bytes, List.map_map, hid, List.map_id, Text.ofBytes?_toBytes]

/-- A character of ASCII stands in front of what follows it as in the text. -/
theorem spelled_cons_of_lt {c : Char} (h : c.toNat < 128) (cs : List Char) :
    spelled (c :: cs) = c :: spelled cs := by
  rw [spelled_cons, spell_of_lt h, List.singleton_append]

/-- Any other character begins beyond ASCII. -/
theorem spelled_cons_of_le {c : Char} (h : 128 ≤ c.toNat) (cs : List Char) :
    ∃ d ds, 128 ≤ d.toNat ∧ spelled (c :: cs) = d :: (ds ++ spelled cs) := by
  cases hspell : Coding.bytes.spell c with
  | nil => exact absurd hspell (spell_ne_nil c)
  | cons d ds =>
    exact ⟨d, ds, le_of_mem_spell h (by simp [hspell]), by
      rw [spelled_cons, hspell, List.cons_append]⟩

/-- Spelling makes no text shorter. -/
theorem length_le_length_spelled (cs : List Char) : cs.length ≤ (spelled cs).length := by
  induction cs with
  | nil => exact Nat.le_refl 0
  | cons c cs ih =>
    rcases Nat.lt_or_ge c.toNat 128 with hc | hc
    · rw [spelled_cons_of_lt hc]
      exact Nat.succ_le_succ ih
    · obtain ⟨d, ds, -, hspelled⟩ := spelled_cons_of_le hc cs
      rw [hspelled, List.length_cons, List.length_cons, List.length_append]
      omega

/-- A character of ASCII that is not in front of a text is not in front of what is spelled. -/
theorem ne_cons_of_spelled {c : Char} (hc : c.toNat < 128) {cs : List Char}
    (h : ∀ rest, cs = c :: rest → False) (tail : List Char) : spelled cs = c :: tail → False := by
  intro hspelled
  cases cs with
  | nil => cases hspelled
  | cons x cs =>
    rcases Nat.lt_or_ge x.toNat 128 with hx | hx
    · rw [spelled_cons_of_lt hx] at hspelled
      exact h cs (by rw [(List.cons.inj hspelled).1])
    · obtain ⟨d, ds, hd, hfront⟩ := spelled_cons_of_le hx cs
      rw [hfront] at hspelled
      cases hspelled
      exact absurd hd (Nat.not_le.mpr hc)

/-! ## Space, words and numerals -/

/-- Only characters of ASCII stand between the parts of a document. -/
theorem isSpace_of_le {c : Char} (h : 128 ≤ c.toNat) : isSpace c = false := by
  refine Bool.eq_false_iff.mpr fun hspace ↦ ?_
  simp only [isSpace, Bool.or_eq_true, decide_eq_true_eq] at hspace
  rcases hspace with ((rfl | rfl) | rfl) | rfl <;> exact absurd h (by decide)

theorem skipSpace_spelled (cs : List Char) : skipSpace (spelled cs) = spelled (skipSpace cs) := by
  induction cs with
  | nil => rfl
  | cons c cs ih =>
    rcases Nat.lt_or_ge c.toNat 128 with hc | hc
    · cases hspace : isSpace c with
      | false => rw [skipSpace_cons hspace, spelled_cons_of_lt hc, skipSpace_cons hspace]
      | true => simpa [spelled_cons_of_lt hc, skipSpace, hspace] using ih
    · obtain ⟨d, ds, hd, hspelled⟩ := spelled_cons_of_le hc cs
      rw [skipSpace_cons (isSpace_of_le hc), hspelled, skipSpace_cons (isSpace_of_le hd)]

theorem dropWord_spelled {word cs rest : List Char} (hword : word.all (·.toNat < 128) = true)
    (h : dropWord word cs = some rest) : dropWord word (spelled cs) = some (spelled rest) := by
  fun_induction dropWord word cs with
  | case1 cs => cases h; rfl
  | case2 c word cs ih =>
    rw [List.all_cons, Bool.and_eq_true, decide_eq_true_eq] at hword
    rw [spelled_cons_of_lt hword.1, dropWord, if_pos rfl]
    exact ih hword.2 h
  | case3 | case4 => cases h

namespace Numeral

/-- Only characters of ASCII are digits. -/
theorem digit?_of_le {c : Char} (h : 128 ≤ c.toNat) : digit? c = none := by
  refine if_neg fun hdigit ↦ ?_
  have hle : c.toNat ≤ 57 := hdigit.2
  omega

theorem digits_spelled (cs : List Char) :
    digits (spelled cs) = ((digits cs).1, spelled (digits cs).2) := by
  induction cs with
  | nil => rfl
  | cons c cs ih =>
    rcases Nat.lt_or_ge c.toNat 128 with hc | hc
    · cases hdigit : digit? c with
      | none => simp [spelled_cons_of_lt hc, digits, hdigit]
      | some n => simp [spelled_cons_of_lt hc, digits, hdigit, ih]
    · obtain ⟨d, ds, hd, hspelled⟩ := spelled_cons_of_le hc cs
      simp [hspelled, digits, digit?_of_le hc, digit?_of_le hd]

/-- A numeral ends where a character beyond ASCII follows. -/
theorem ends_of_le {c : Char} (h : 128 ≤ c.toNat) (cs : List Char) : Ends (c :: cs) := by
  refine ⟨digit?_of_le h, ?_, ?_, ?_⟩ <;> rintro rfl <;> exact absurd h (by decide)

theorem lexFraction_spelled {cs rest : List Char} {f : Option (List Nat)}
    (h : lexFraction cs = some (f, rest)) : lexFraction (spelled cs) = some (f, spelled rest) := by
  unfold lexFraction at h
  split at h
  · next tail =>
    rw [spelled_cons_of_lt (by decide), lexFraction, digits_spelled]
    obtain ⟨ds, rest, hdigits⟩ : ∃ ds rest, digits tail = (ds, rest) := ⟨_, _, rfl⟩
    rw [hdigits] at h ⊢
    cases ds with
    | nil => cases h
    | cons d ds => cases h; rfl
  · next hpoint =>
    cases h
    rw [lexFraction]
    exact ne_cons_of_spelled (by decide) hpoint

theorem lexExponentDigits_spelled {negative : Bool} {cs rest : List Char}
    {e : Option (Bool × List Nat)} (h : lexExponentDigits negative cs = some (e, rest)) :
    lexExponentDigits negative (spelled cs) = some (e, spelled rest) := by
  rw [lexExponentDigits] at h
  rw [lexExponentDigits, digits_spelled]
  obtain ⟨ds, rest, hdigits⟩ : ∃ ds rest, digits cs = (ds, rest) := ⟨_, _, rfl⟩
  rw [hdigits] at h ⊢
  cases ds with
  | nil => cases h
  | cons d ds => cases h; rfl

theorem lexExponent_spelled {cs rest : List Char} {e : Option (Bool × List Nat)}
    (h : lexExponent cs = some (e, rest)) : lexExponent (spelled cs) = some (e, spelled rest) := by
  have hletter : ∀ {c}, c = 'e' ∨ c = 'E' → c.toNat < 128 := by rintro _ (rfl | rfl) <;> decide
  fun_cases lexExponent cs with
  | case1 c hc tail | case2 c hc tail =>
    rw [lexExponent, if_pos hc] at h
    rw [spelled_cons_of_lt (hletter hc), spelled_cons_of_lt (by decide), lexExponent, if_pos hc]
    exact lexExponentDigits_spelled h
  | case3 c hc tail hminus hplus =>
    simp only [lexExponent, if_pos hc] at h
    rw [spelled_cons_of_lt (hletter hc)]
    simp only [lexExponent, if_pos hc]
    split
    · next hspelled => exact (ne_cons_of_spelled (by decide) hminus _ hspelled).elim
    · next hspelled => exact (ne_cons_of_spelled (by decide) hplus _ hspelled).elim
    · exact lexExponentDigits_spelled h
  | case4 c tail hc =>
    simp only [lexExponent, if_neg hc] at h
    cases h
    rcases Nat.lt_or_ge c.toNat 128 with hascii | hbeyond
    · simp only [spelled_cons_of_lt hascii, lexExponent, if_neg hc]
    · obtain ⟨d, ds, hd, hspelled⟩ := spelled_cons_of_le hbeyond tail
      rw [hspelled, lexExponent_of_ends (ends_of_le hd _)]
  | case5 => cases h; rfl

theorem lexUnsigned_spelled {negative : Bool} {cs rest : List Char} {n : Numeral}
    (h : lexUnsigned negative cs = some (n, rest)) :
    lexUnsigned negative (spelled cs) = some (n, spelled rest) := by
  rw [lexUnsigned] at h
  rw [lexUnsigned, digits_spelled]
  generalize digits cs = found at h ⊢
  split at h
  · cases h
  · cases h
  · next found hnil hzero =>
    obtain ⟨⟨whole, tail⟩, hfound, h⟩ := Option.bind_eq_some_iff.mp h
    obtain ⟨⟨fraction, tail⟩, hfraction, h⟩ := Option.bind_eq_some_iff.mp h
    obtain ⟨⟨exponent, tail⟩, hexponent, h⟩ := Option.bind_eq_some_iff.mp h
    cases h
    cases hfound
    split
    · next hfound => exact (hnil _ (Prod.ext (Prod.mk.inj hfound).1 rfl)).elim
    · next hfound => exact (hzero _ _ _ (Prod.ext (Prod.mk.inj hfound).1 rfl)).elim
    · simp [lexFraction_spelled hfraction, lexExponent_spelled hexponent]

theorem lex_spelled {cs rest : List Char} {n : Numeral} (h : lex cs = some (n, rest)) :
    lex (spelled cs) = some (n, spelled rest) := by
  fun_cases lex cs with
  | case1 tail =>
    rw [spelled_cons_of_lt (by decide), lex]
    exact lexUnsigned_spelled h
  | case2 cs hminus =>
    rw [lex] at h
    · rw [lex]
      · exact lexUnsigned_spelled h
      · exact ne_cons_of_spelled (by decide) hminus
    · exact hminus

end Numeral

/-! ## Text values -/

/-- A piece of a text value as a document of bytes has it. -/
def Piece.spelled : Piece → List Piece
  | .char c => (Coding.bytes.spell c).map .char
  | .unit u => [.unit u]

/-- Only characters of ASCII are hexadecimal digits. -/
theorem lt_of_hexDigit? {c : Char} {n : Nat} (h : hexDigit? c = some n) : c.toNat < 128 := by
  refine Nat.lt_of_not_le fun hle ↦ ?_
  have hnone : ∀ {hi : Char}, hi.toNat < 128 → ¬c ≤ hi := fun hhi hc ↦
    absurd (Nat.le_trans hle hc) (Nat.not_le.mpr hhi)
  rw [hexDigit?, if_neg fun hc ↦ hnone (by decide) hc.2, if_neg fun hc ↦ hnone (by decide) hc.2,
    if_neg fun hc ↦ hnone (by decide) hc.2] at h
  cases h

/-- Only characters of ASCII are written as a backslash and a letter, which is one too. -/
theorem lt_of_shortEscape? {e c : Char} (h : shortEscape? e = some c) :
    e.toNat < 128 ∧ c.toNat < 128 := by
  fun_cases shortEscape? e
  case case9 hnone => simp_all [shortEscape?]
  all_goals cases h; decide

theorem lt_of_hex4? {a b c d : Char} {u : Nat} (h : hex4? a b c d = some u) :
    a.toNat < 128 ∧ b.toNat < 128 ∧ c.toNat < 128 ∧ d.toNat < 128 := by
  obtain ⟨_, ha, h⟩ := Option.bind_eq_some_iff.mp h
  obtain ⟨_, hb, h⟩ := Option.bind_eq_some_iff.mp h
  obtain ⟨_, hc, h⟩ := Option.bind_eq_some_iff.mp h
  obtain ⟨_, hd, -⟩ := Option.bind_eq_some_iff.mp h
  exact ⟨lt_of_hexDigit? ha, lt_of_hexDigit? hb, lt_of_hexDigit? hc, lt_of_hexDigit? hd⟩

/-- The characters that spell a plain character are plain. -/
theorem isPlain_of_mem_spell {c d : Char} (hc : IsPlain c) (hd : d ∈ Coding.bytes.spell c) :
    IsPlain d := by
  rcases Nat.lt_or_ge c.toNat 128 with hascii | hbeyond
  · rw [spell_of_lt hascii, List.mem_singleton] at hd
    exact hd ▸ hc
  · have hle := le_of_mem_spell hbeyond hd
    refine ⟨?_, ?_⟩
    · rintro rfl; exact absurd hle (by decide)
    · rintro (hlt | rfl)
      · have hcontrol : d.toNat < 32 := hlt
        omega
      · exact absurd hle (by decide)

theorem lexPieces_append_of_isPlain {ds : List Char} (hds : ∀ d ∈ ds, IsPlain d) (cs : List Char) :
    lexPieces (ds ++ cs) = (lexPieces cs).map fun (ps, rest) ↦ (ds.map .char ++ ps, rest) := by
  induction ds with
  | nil => simp
  | cons d ds ih =>
    obtain ⟨hd, hds⟩ := List.forall_mem_cons.mp hds
    rw [List.cons_append, lexPieces_cons_of_isPlain hd, ih hds, Option.map_map]
    rfl

/-- Text values end where they end in the text, and their pieces are those of the text. -/
theorem lexPieces_spelled {cs rest : List Char} {ps : List Piece}
    (h : lexPieces cs = some (ps, rest)) :
    lexPieces (spelled cs) = some (ps.flatMap Piece.spelled, spelled rest) := by
  fun_induction lexPieces cs generalizing ps rest with
  | case1 | case5 => cases h
  | case2 tail => cases h; rw [spelled_cons_of_lt (by decide), lexPieces]; rfl
  | case3 a b c d tail ih =>
    obtain ⟨u, hu, h⟩ := Option.bind_eq_some_iff.mp h
    obtain ⟨⟨pieces, rest⟩, hpieces, h⟩ := Option.bind_eq_some_iff.mp h
    cases h
    obtain ⟨ha, hb, hc, hd⟩ := lt_of_hex4? hu
    rw [spelled_cons_of_lt (by decide), spelled_cons_of_lt (by decide), spelled_cons_of_lt ha,
      spelled_cons_of_lt hb, spelled_cons_of_lt hc, spelled_cons_of_lt hd, lexPieces, hu,
      ih hpieces]
    rfl
  | case4 e tail hunit ih =>
    obtain ⟨c, hc, h⟩ := Option.bind_eq_some_iff.mp h
    obtain ⟨⟨pieces, rest⟩, hpieces, h⟩ := Option.bind_eq_some_iff.mp h
    cases h
    obtain ⟨he, hlt⟩ := lt_of_shortEscape? hc
    have hspelled : (Piece.char c).spelled = [.char c] := by
      rw [Piece.spelled, spell_of_lt hlt, List.map_singleton]
    rw [spelled_cons_of_lt (by decide), spelled_cons_of_lt he, lexPieces, hc, ih hpieces,
      List.flatMap_cons, hspelled]
    · rfl
    · rintro a b c d rest rfl -
      cases hc
  | case6 c tail hquote hunit hescape hplain ih =>
    obtain ⟨⟨pieces, rest⟩, hpieces, h⟩ := Option.bind_eq_some_iff.mp h
    cases h
    have hmem : ∀ d ∈ Coding.bytes.spell c, IsPlain d := fun d ↦
      isPlain_of_mem_spell ⟨hquote, hplain⟩
    rw [spelled_cons, lexPieces_append_of_isPlain hmem, ih hpieces]
    rfl

theorem joinPieces_map_char (ds : List Char) (ps : List Piece) :
    joinPieces .bytes (ds.map .char ++ ps) = (joinPieces .bytes ps).map (ds ++ ·) := by
  induction ds with
  | nil => simp
  | cons d ds ih =>
    rw [List.map_cons, List.cons_append, joinPieces, ih, Option.map_map]
    rfl

/-- A half of a pair is only in front of the pieces where it is in the text. -/
theorem ne_unit_of_spelled {ps : List Piece} (h : ∀ v rest, ps = .unit v :: rest → False) (v : Nat)
    (rest : List Piece) : ps.flatMap Piece.spelled = .unit v :: rest → False := by
  match ps with
  | [] => exact nofun
  | .unit u :: ps => exact (h u ps rfl).elim
  | .char c :: ps =>
    rw [List.flatMap_cons, Piece.spelled]
    cases hspell : Coding.bytes.spell c with
    | nil => exact absurd hspell (spell_ne_nil c)
    | cons d ds => exact nofun

/-- The pieces of a text value join to the bytes of what they join to in the text. -/
theorem joinPieces_spelled (ps : List Piece) :
    joinPieces .bytes (ps.flatMap Piece.spelled) = (joinPieces .text ps).map spelled := by
  have hunit : ∀ u ps, (Piece.unit u :: ps).flatMap Piece.spelled =
      .unit u :: ps.flatMap Piece.spelled := fun _ _ ↦ rfl
  have hfront : ∀ (c : Char) (joined : Option (List Char)),
      (joined.map (c :: ·)).map spelled = (joined.map spelled).map (Coding.bytes.spell c ++ ·) := by
    intro c joined
    cases joined <;> rfl
  fun_induction joinPieces .text ps with
  | case1 => rfl
  | case2 c ps ih => rw [List.flatMap_cons, Piece.spelled, joinPieces_map_char, ih, hfront]
  | case3 u v ps hhigh hlow ih =>
    rw [hunit, hunit, joinPieces, if_pos hhigh, if_pos hlow, ih]
    exact (hfront _ _).symm
  | case4 u v ps hhigh hlow => rw [hunit, hunit, joinPieces, if_pos hhigh, if_neg hlow]; rfl
  | case5 u v ps hhigh hlow => rw [hunit, hunit, joinPieces, if_neg hhigh, if_pos hlow]; rfl
  | case6 u v ps hhigh hlow ih =>
    rw [hunit, hunit, joinPieces, if_neg hhigh, if_neg hlow, ← hunit, ih]
    exact (hfront _ _).symm
  | case7 u ps hne hhalf => rw [hunit, joinPieces, if_pos hhalf]; rfl; exact ne_unit_of_spelled hne
  | case8 u ps hne hhalf ih =>
    rw [hunit, joinPieces, if_neg hhalf, ih]
    · exact (hfront _ _).symm
    · exact ne_unit_of_spelled hne

/-- A text value is the same one in the bytes of the text. -/
theorem lexString_spelled {cs rest : List Char} {s : Option String}
    (h : lexString .text cs = some (s, rest)) :
    lexString .bytes (spelled cs) = some (s, spelled rest) := by
  obtain ⟨⟨ps, rest⟩, hpieces, h⟩ := Option.map_eq_some_iff.mp h
  cases h
  simp only [lexString, lexPieces_spelled hpieces, Option.map_some, joinPieces_spelled]
  cases joinPieces .text ps with
  | none => rfl
  | some joined => simp [text?_spelled]

/-! ## Values -/

/-- Space in front of a value makes no difference. -/
theorem readValue_skipSpace (k : Coding) (fuel : Nat) (cs : List Char) :
    readValue k fuel (skipSpace cs) = readValue k fuel cs := by
  cases fuel with
  | zero => rfl
  | succ fuel => simp only [readValue, skipSpace, List.dropWhile_idempotent]

mutual

/-- A value is the same one in the bytes of the text, with at least as much fuel. -/
theorem readValue_spelled : ∀ {fuel fuel' : Nat}, fuel ≤ fuel' → ∀ {cs rest : List Char}
    {v : Source}, readValue .text fuel cs = some (v, rest) →
      readValue .bytes fuel' (spelled cs) = some (v, spelled rest)
  | 0, _, _, _, _, _, h => by cases h
  | fuel + 1, 0, hle, _, _, _, _ => absurd hle (Nat.not_succ_le_zero fuel)
  | fuel + 1, fuel' + 1, hle, cs, rest, v, h => by
    have hle := Nat.le_of_succ_le_succ hle
    rw [readValue] at h
    rw [← readValue_skipSpace, skipSpace_spelled]
    generalize skipSpace cs = cs at h ⊢
    split at h
    · next tail =>
      rw [spelled_cons_of_lt (by decide), readValue, skipSpace_cons (by decide)]
      simp only [skipSpace_spelled]
      generalize skipSpace tail = tail at h ⊢
      split at h
      · cases h
        rw [spelled_cons_of_lt (by decide)]
        rfl
      · next hclose =>
        obtain ⟨⟨l, rest⟩, hmembers, h⟩ := Option.map_eq_some_iff.mp h
        cases h
        split
        · next hspelled => exact (ne_cons_of_spelled (by decide) hclose _ hspelled).elim
        · rw [readMembers_spelled hle hmembers, Option.map_some]
    · next tail =>
      rw [spelled_cons_of_lt (by decide), readValue, skipSpace_cons (by decide)]
      simp only [skipSpace_spelled]
      generalize skipSpace tail = tail at h ⊢
      split at h
      · cases h
        rw [spelled_cons_of_lt (by decide)]
        rfl
      · next hclose =>
        obtain ⟨⟨l, rest⟩, hitems, h⟩ := Option.map_eq_some_iff.mp h
        cases h
        split
        · next hspelled => exact (ne_cons_of_spelled (by decide) hclose _ hspelled).elim
        · rw [readItems_spelled hle hitems, Option.map_some]
    · next tail =>
      obtain ⟨⟨s, rest⟩, hstring, h⟩ := Option.map_eq_some_iff.mp h
      cases h
      rw [spelled_cons_of_lt (by decide), readValue, skipSpace_cons (by decide)]
      simp only [lexString_spelled hstring, Option.map_some]
    case h_4 tail | h_5 tail | h_6 tail =>
      obtain ⟨rest, hword, h⟩ := Option.map_eq_some_iff.mp h
      cases h
      rw [spelled_cons_of_lt (by decide), readValue, skipSpace_cons (by decide)]
      simp only [dropWord_spelled (by decide) hword, Option.map_some]
    · obtain ⟨⟨n, rest⟩, hlex, h⟩ := Option.map_eq_some_iff.mp h
      cases h
      exact readValue_of_lex (Numeral.lex_spelled hlex) fuel'

/-- The items of a list are the same ones in the bytes of the text. -/
theorem readItems_spelled : ∀ {fuel fuel' : Nat}, fuel ≤ fuel' → ∀ {cs rest : List Char}
    {l : List Source}, readItems .text fuel cs = some (l, rest) →
      readItems .bytes fuel' (spelled cs) = some (l, spelled rest)
  | 0, _, _, _, _, _, h => by cases h
  | fuel + 1, 0, hle, _, _, _, _ => absurd hle (Nat.not_succ_le_zero fuel)
  | fuel + 1, fuel' + 1, hle, cs, rest, l, h => by
    have hle := Nat.le_of_succ_le_succ hle
    obtain ⟨⟨item, tail⟩, hitem, h⟩ := Option.bind_eq_some_iff.mp h
    have hread := readValue_spelled hle hitem
    dsimp only at h
    simp only [readItems, hread, Option.bind_eq_bind, Option.bind_some, skipSpace_spelled]
    generalize skipSpace tail = tail at h ⊢
    split at h
    · obtain ⟨⟨items, rest⟩, hitems, h⟩ := Option.bind_eq_some_iff.mp h
      cases h
      rw [spelled_cons_of_lt (by decide)]
      simp [readItems_spelled hle hitems]
    · cases h
      rw [spelled_cons_of_lt (by decide)]
      rfl
    · cases h

/-- The members of an object are the same ones in the bytes of the text. -/
theorem readMembers_spelled : ∀ {fuel fuel' : Nat}, fuel ≤ fuel' → ∀ {cs rest : List Char}
    {l : List (Option String × Source)}, readMembers .text fuel cs = some (l, rest) →
      readMembers .bytes fuel' (spelled cs) = some (l, spelled rest)
  | 0, _, _, _, _, _, h => by cases h
  | fuel + 1, 0, hle, _, _, _, _ => absurd hle (Nat.not_succ_le_zero fuel)
  | fuel + 1, fuel' + 1, hle, cs, rest, l, h => by
    have hle := Nat.le_of_succ_le_succ hle
    rw [readMembers] at h
    rw [readMembers, skipSpace_spelled]
    generalize skipSpace cs = cs at h ⊢
    split at h
    · next tail =>
      obtain ⟨⟨name, tail⟩, hname, h⟩ := Option.bind_eq_some_iff.mp h
      rw [spelled_cons_of_lt (by decide)]
      simp only [lexString_spelled hname, Option.bind_eq_bind, Option.bind_some, skipSpace_spelled]
      dsimp only at h
      generalize skipSpace tail = tail at h ⊢
      split at h
      · next tail =>
        rw [spelled_cons_of_lt (by decide)]
        obtain ⟨_, ⟨⟩, h⟩ := Option.bind_eq_some_iff.mp h
        obtain ⟨⟨value, tail⟩, hvalue, h⟩ := Option.bind_eq_some_iff.mp h
        simp only [readValue_spelled hle hvalue, Option.bind_some, skipSpace_spelled]
        dsimp only at h
        generalize skipSpace tail = tail at h ⊢
        split at h
        · obtain ⟨⟨members, rest⟩, hmembers, h⟩ := Option.bind_eq_some_iff.mp h
          cases h
          rw [spelled_cons_of_lt (by decide)]
          simp [readMembers_spelled hle hmembers]
        · cases h
          rw [spelled_cons_of_lt (by decide)]
          rfl
        · cases h
      · cases h
    · cases h

end

/-! ## Documents -/

/-- The bytes of a text are read as the text is read. -/
theorem ofBytes?_toBytes {s : String} {source : Source} (h : Source.ofText? s = some source) :
    Source.ofBytes? (Text.toBytes s) = some source := by
  rw [Source.ofText?, readWhole] at h
  split at h
  · next v rest hfront =>
    obtain ⟨hspace, rfl⟩ : (skipSpace rest).isEmpty ∧ v = source := by
      split at h <;> simp_all
    have hlength := length_le_length_spelled s.toList
    have hfuel : 2 * s.toList.length + 2 ≤ 2 * (spelled s.toList).length + 2 := by omega
    have hread := readValue_spelled hfuel hfront
    rw [List.isEmpty_iff] at hspace
    rw [Source.ofBytes?, map_ofUInt8_toBytes, readWhole, readFront, hread]
    simp [skipSpace_spelled, hspace]
  · cases h

/-- The bytes of the compact text of a value are read as what was written. -/
theorem ofBytes?_toText {v : Json} (h : v.Numeric) :
    Source.ofBytes? (Text.toBytes v.toText) = some v.written :=
  ofBytes?_toBytes (ofText?_toText h)

end BearerAuth.Json
