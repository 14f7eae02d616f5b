import BearerAuth.Proofs.Config.Expansion

/-!
# What expansion puts in

A template is a text as its author means it: literals and closed references in turn.  Its text is
expanded by putting into the place of each reference what the reference stands for
(`expand_template`).  Nothing is read twice.  What a variable holds is put in as it is, also if it
looks like a reference or makes one together with the literal behind it, and a dollar sign at the
end of a literal stays what it is before the dollar sign of a reference.

That a text is the text of a template excludes little: only a text that ends in an open reference is
none.
-/

namespace BearerAuth.Config

/-- A text in which no reference begins.  It may be empty, and it may end in a dollar sign. -/
structure Literal where
  /-- The text. -/
  text : String
  /-- No dollar sign stands before an opening brace. -/
  plain : ¬['$', '{'] <:+: text.toList

/-- A name that can be referred to: what it holds besides, dollar signs and opening braces
included, is part of the name. -/
structure Name where
  /-- The text. -/
  text : String
  /-- A closing brace would end the reference. -/
  closable : '}' ∉ text.toList

namespace Name

/-- The reference to a name. -/
def reference (n : Name) : String := "$\x7b" ++ n.text ++ "\x7d"

/-- What the reference to a name stands for: the value of the variable or, if it is not set, the
reference itself. -/
def value (lookup : String → Option String) (n : Name) : String :=
  (lookup n.text).getD n.reference

end Name

/-- Literals and references in turn, a literal at both ends. -/
inductive Template where
  /-- A literal without references. -/
  | literal (l : Literal)
  /-- A literal, a reference behind it, and what follows. -/
  | reference (l : Literal) (n : Name) (rest : Template)

namespace Template

/-- The text with something in the place of each reference. -/
def fill (f : Name → String) : Template → String
  | literal l => l.text
  | reference l n rest => l.text ++ f n ++ rest.fill f

/-- The text as it is written. -/
def text : Template → String := fill Name.reference

/-- The fragments of a template. -/
def fragments : Template → List Fragment
  | literal l => l.text.toList.map .plain
  | reference l n rest =>
    l.text.toList.map .plain ++ .reference n.text.toList :: rest.fragments

/-! ## Templates as texts -/

/-- The text of a template is cut where its parts meet. -/
theorem cut_text (t : Template) : Cut t.text.toList t.fragments := by
  induction t with
  | literal l =>
    have hcut := Cut.nil.append_plain l.plain (by simp)
    rwa [List.append_nil, List.append_nil] at hcut
  | reference l n rest ih =>
    have hcut := (Cut.reference n.closable ih).append_plain l.plain (by simp)
    simpa [text, fill, fragments, Name.reference] using hcut

/-- Fragment by fragment, a template is expanded by putting values into the place of references. -/
theorem flatMap_expanded_fragments (lookup : String → Option String) (t : Template) :
    t.fragments.flatMap (Fragment.expanded lookup) = (t.fill (Name.value lookup)).toList := by
  have hvalue (n : Name) : (Fragment.reference n.text.toList).expanded lookup =
      (n.value lookup).toList := by
    rw [Fragment.expanded, Fragment.read, referent, String.ofList_toList, Name.value]
    cases lookup n.text with
    | some value => rfl
    | none => simp [Name.reference]
  induction t with
  | literal l => exact Fragment.flatMap_expanded_plain lookup _
  | reference l n rest ih =>
    rw [fragments, List.flatMap_append, Fragment.flatMap_expanded_plain, List.flatMap_cons, ih,
      hvalue, fill, String.toList_append, String.toList_append, List.append_assoc]

/-- A template lacks no closing brace. -/
theorem flatMap_missing_fragments (t : Template) : t.fragments.flatMap Fragment.missing = [] := by
  refine List.flatMap_eq_nil_iff.mpr fun f hf ↦ ?_
  induction t with
  | literal l =>
    obtain ⟨c, -, rfl⟩ := List.mem_map.mp hf
    rfl
  | reference l n rest ih =>
    rcases List.mem_append.mp hf with hf | hf
    · obtain ⟨c, -, rfl⟩ := List.mem_map.mp hf
      rfl
    · rcases List.mem_cons.mp hf with rfl | hf
      · rfl
      · exact ih hf

/-! ## Texts as templates -/

/-- A literal with one more character in front is one, if no reference begins there. -/
theorem exists_literal {c : Char} (l : Literal) (after : List Char)
    (h : ¬['$', '{'] <+: c :: (l.text.toList ++ after)) :
    ∃ m : Literal, m.text.toList = c :: l.text.toList := by
  refine ⟨⟨.ofList (c :: l.text.toList), ?_⟩, String.toList_ofList⟩
  rw [String.toList_ofList, List.infix_cons_iff]
  rintro (hbegins | hinside)
  · exact h (hbegins.trans (List.prefix_append _ after))
  · exact l.plain hinside

/-- A text that is cut into closed fragments is the text of a template. -/
theorem exists_text_eq {cs : List Char} {fs : List Fragment} (h : Cut cs fs)
    (hclosed : fs.flatMap Fragment.missing = []) : ∃ t : Template, t.text.toList = cs := by
  induction h with
  | nil => exact ⟨.literal ⟨"", by simp⟩, rfl⟩
  | @plain c rest fs hbegins _ ih =>
    obtain ⟨t, rfl⟩ := ih hclosed
    cases t with
    | literal l =>
      obtain ⟨m, hm⟩ := exists_literal l [] (by simpa [text, fill] using hbegins)
      exact ⟨.literal m, hm⟩
    | reference l n rest =>
      simp only [text, fill, String.toList_append, List.append_assoc] at hbegins
      obtain ⟨m, hm⟩ := exists_literal l _ hbegins
      exact ⟨.reference m n rest, by simp [text, fill, hm]⟩
  | @reference name rest fs hname _ ih =>
    obtain ⟨t, rfl⟩ := ih hclosed
    refine ⟨.reference ⟨"", by simp⟩ ⟨.ofList name, by simpa using hname⟩ t, ?_⟩
    simp [text, fill, Name.reference]
  | unclosed _ => cases hclosed

/-- The text of a template is expanded by putting values into the place of references, and by
nothing else.  Every text is the text of a template, unless it ends in an open reference. -/
theorem expand_template (lookup : String → Option String) :
    (∀ t : Template, expand lookup t.text = t.fill (Name.value lookup)) ∧
      ∀ s, (∃ t : Template, t.text = s) ↔ ¬EndsOpen s.toList := by
  refine ⟨fun t ↦ ?_, fun s ↦ ?_⟩
  · rw [expand, t.cut_text.expandChars_eq, flatMap_expanded_fragments, String.ofList_toList]
  · constructor
    · rintro ⟨t, rfl⟩ hopen
      rcases t.cut_text.flatMap_missing with ⟨-, hmissing⟩ | ⟨hclosed, -⟩
      · rw [flatMap_missing_fragments] at hmissing
        cases hmissing
      · exact hclosed hopen
    · intro hclosed
      obtain ⟨fs, hcut⟩ := exists_cut s.toList
      rcases hcut.flatMap_missing with ⟨hopen, -⟩ | ⟨-, hmissing⟩
      · exact absurd hopen hclosed
      · obtain ⟨t, ht⟩ := exists_text_eq hcut hmissing
        exact ⟨t, String.toList_inj.mp ht⟩

/-- A dollar sign stands before a reference, and a value before a literal with which it looks like
one; neither makes a difference.  The name of the second reference looks like a reference too. -/
theorem expand_template_dollars :
    expand (fun name ↦ if name = "A" then some "$" else if name = "B" then some "?" else none)
      "$$\x7bA\x7d\x7bB\x7d$\x7b$\x7bC\x7d" = "$$\x7bB\x7d$\x7b$\x7bC\x7d" := by
  let written : Template :=
    .reference ⟨"$", by decide⟩ ⟨"A", by decide⟩ (.reference ⟨"\x7bB\x7d", by decide⟩
      ⟨"$\x7bC", by decide⟩ (.literal ⟨"", by decide⟩))
  exact (expand_template _).1 written

end Template

end BearerAuth.Config
