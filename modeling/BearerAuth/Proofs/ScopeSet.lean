import BearerAuth.Claims.ScopeSet
import Mathlib.Data.List.Sort

/-!
# The written form of scopes

The scopes of a set are joined by spaces and split at spaces again.  Splitting takes each scope
apart on its own (`Text.split_intercalate`), so what is read back are the parts of each scope
(`mem_parse_toText`): all scopes, if none is empty or holds a space (`parse_toText`).
-/

namespace BearerAuth

namespace Text

/-- A text without the character is its only part. -/
theorem split_of_notMem {c : Char} {s : List Char} (h : c ∉ s) : split c s = [s] := by
  induction s with
  | nil => rfl
  | cons x rest ih =>
    simp only [List.mem_cons, not_or] at h
    rw [split, if_neg (Ne.symm h.1), ih h.2]

/-- The parts before and after a place of the character are parts of their own texts. -/
theorem split_append_cons (c : Char) (s t : List Char) :
    split c (s ++ c :: t) = split c s ++ split c t := by
  induction s with
  | nil => simp [split]
  | cons x rest ih =>
    rw [List.cons_append, split, split]
    split
    · rw [ih, List.cons_append]
    · obtain ⟨part, parts, hparts⟩ := List.exists_cons_of_ne_nil (split_ne_nil c rest)
      rw [ih, hparts, List.cons_append, List.cons_append]

/-- A text joined from others is split into the parts of each of them. -/
theorem split_intercalate (c : Char) {l : List (List Char)} (h : l ≠ []) :
    split c ([c].intercalate l) = l.flatMap (split c) := by
  induction l with
  | nil => exact absurd rfl h
  | cons s rest ih =>
    cases rest with
    | nil => simp [List.intercalate]
    | cons t rest =>
      have hjoin : [c].intercalate (s :: t :: rest) = s ++ c :: [c].intercalate (t :: rest) := by
        simp [List.intercalate]
      rw [hjoin, split_append_cons, ih (List.cons_ne_nil t rest)]
      rfl

end Text

namespace ScopeSet

/-- Sets with the same members are equal. -/
theorem ext_mem {s t : ScopeSet} (h : ∀ x, x ∈ s ↔ x ∈ t) : s = t :=
  ScopeSet.ext (s.sorted.eq_of_mem_iff t.sorted h)

/-- The scopes of a text are its parts that are not empty. -/
theorem mem_parse {text x : String} :
    x ∈ parse text ↔ x ≠ "" ∧ x.toList ∈ Text.split ' ' text.toList := by
  simp only [parse, mem_ofList, List.mem_map, List.mem_filter, Bool.not_eq_true',
    List.isEmpty_eq_false_iff]
  constructor
  · rintro ⟨part, ⟨hpart, hne⟩, rfl⟩
    rw [String.toList_ofList]
    refine ⟨fun hempty ↦ hne ?_, hpart⟩
    simpa using congrArg String.toList hempty
  · rintro ⟨hne, hpart⟩
    exact ⟨x.toList, ⟨hpart, fun hnil ↦ hne (String.toList_inj.mp hnil)⟩, String.ofList_toList⟩

/-- What is read from the written form of a set are the scopes in each of its scopes. -/
theorem mem_parse_toText {s : ScopeSet} {x : String} :
    x ∈ parse s.toText ↔ ∃ y ∈ s, x ∈ parse y := by
  rw [mem_parse, toText, String.toList_ofList]
  by_cases hs : s.toList = []
  · have hnone : ∀ y, y ∉ s := by simp [mem_iff, hs]
    rw [hs, List.map_nil]
    simp [hnone, List.intercalate, Text.split]
  · rw [Text.split_intercalate ' ' (mt List.map_eq_nil_iff.mp hs), List.flatMap_map,
      List.mem_flatMap]
    constructor
    · rintro ⟨hne, y, hy, hpart⟩
      exact ⟨y, hy, mem_parse.mpr ⟨hne, hpart⟩⟩
    · rintro ⟨y, hy, hx⟩
      obtain ⟨hne, hpart⟩ := mem_parse.mp hx
      exact ⟨hne, y, hy, hpart⟩

/-- A scope that is not empty and holds no space is read as itself. -/
theorem mem_parse_of_plain {x y : String} (hne : y ≠ "") (hspace : ' ' ∉ y.toList) :
    x ∈ parse y ↔ x = y := by
  rw [mem_parse, Text.split_of_notMem hspace, List.mem_singleton, String.toList_inj]
  exact ⟨And.right, fun h ↦ ⟨h ▸ hne, h⟩⟩

/-- What is read from a text is never empty and holds no space. -/
theorem plain_of_mem_parse {text x : String} (h : x ∈ parse text) : x ≠ "" ∧ ' ' ∉ x.toList := by
  obtain ⟨hne, hpart⟩ := mem_parse.mp h
  exact ⟨hne, Text.notMem_of_mem_split hpart⟩

/-- A set is read back from its written form if none of its scopes is empty or holds a space. -/
theorem parse_toText {s : ScopeSet} (h : ∀ x ∈ s, x ≠ "" ∧ ' ' ∉ x.toList) :
    parse s.toText = s := by
  refine ext_mem fun x ↦ ?_
  rw [mem_parse_toText]
  constructor
  · rintro ⟨y, hy, hx⟩
    rwa [(mem_parse_of_plain (h y hy).1 (h y hy).2).mp hx]
  · intro hx
    exact ⟨x, hx, (mem_parse_of_plain (h x hx).1 (h x hx).2).mpr rfl⟩

/-- No other set is read back from its written form: what is written of an odd scope are its parts,
and the scope itself is not among them. -/
theorem parse_toText_eq_iff {s : ScopeSet} :
    parse s.toText = s ↔ ∀ x ∈ s, x ≠ "" ∧ ' ' ∉ x.toList := by
  refine ⟨fun h x hx ↦ ?_, parse_toText⟩
  rw [← h] at hx
  exact plain_of_mem_parse hx

end ScopeSet

end BearerAuth
