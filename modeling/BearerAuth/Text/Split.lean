/-!
# Splitting texts

Cutting a text at a character and joining the parts are inverse to each other
(`intercalate_split`), and no part contains the character (`notMem_of_mem_split`).
-/

namespace BearerAuth.Text

/-- The parts of a text between the places of a character; there is always at least one. -/
def split (c : Char) : List Char → List (List Char)
  | [] => [[]]
  | x :: rest =>
    if x = c then [] :: split c rest
    else match split c rest with
      | part :: parts => (x :: part) :: parts
      | [] => [[x]]

/-- What stands before the first place of a character, or of a byte, and what stands after it. -/
def splitOnce? {α : Type} [DecidableEq α] (c : α) : List α → Option (List α × List α)
  | [] => none
  | x :: rest =>
    if x = c then some ([], rest)
    else (splitOnce? c rest).map fun (before, after) ↦ (x :: before, after)

/-- There is always a first part. -/
theorem split_ne_nil (c : Char) (s : List Char) : split c s ≠ [] := by
  cases s with
  | nil => simp [split]
  | cons x rest =>
    rw [split]
    split
    · simp
    · split <;> simp

/-- Joining the parts gives the text back. -/
theorem intercalate_split (c : Char) (s : List Char) : [c].intercalate (split c s) = s := by
  induction s with
  | nil => simp [split, List.intercalate]
  | cons x rest ih =>
    rw [split]
    split
    · next h =>
      subst h
      obtain ⟨part, parts, h⟩ := List.exists_cons_of_ne_nil (split_ne_nil x rest)
      rw [h] at ih ⊢
      simpa [List.intercalate] using ih
    · split
      · next part parts h =>
        rw [h] at ih
        cases parts <;> simp_all [List.intercalate]
      · next h => exact absurd h (split_ne_nil c rest)

/-- No part contains the character that the text was cut at. -/
theorem notMem_of_mem_split {c : Char} {s part : List Char} (h : part ∈ split c s) : c ∉ part := by
  induction s generalizing part with
  | nil => simp_all [split]
  | cons x rest ih =>
    rw [split] at h
    split at h
    · rcases List.mem_cons.mp h with rfl | h
      · simp
      · exact ih h
    · next hx =>
      split at h
      · next hs =>
        rcases List.mem_cons.mp h with rfl | h
        · simpa using ⟨fun hc ↦ hx hc.symm, ih (by simp [hs])⟩
        · exact ih (by simp [hs, h])
      · next hs => exact absurd hs (split_ne_nil c rest)

/-- A text is cut in two exactly at its first place of the character. -/
theorem splitOnce?_eq_some_iff {α : Type} [DecidableEq α] {c : α} {s before after : List α} :
    splitOnce? c s = some (before, after) ↔ s = before ++ c :: after ∧ c ∉ before := by
  induction s generalizing before with
  | nil => simp [splitOnce?]
  | cons x rest ih =>
    rw [splitOnce?]
    split
    · next h =>
      subst h
      cases before with
      | nil => simp
      | cons b before =>
        simp only [Option.some.injEq, Prod.mk.injEq, List.cons_append, List.cons.injEq,
          List.mem_cons, not_or]
        constructor
        · rintro ⟨h, -⟩; simp at h
        · rintro ⟨⟨rfl, -⟩, h, -⟩; exact absurd rfl h
    · next h =>
      cases before with
      | nil => simp [h]
      | cons b before =>
        simp only [Option.map_eq_some_iff, Prod.mk.injEq, Prod.exists, List.cons_append,
          List.cons.injEq, List.mem_cons, not_or]
        constructor
        · rintro ⟨p, q, hpq, ⟨rfl, rfl⟩, rfl⟩
          obtain ⟨h1, h2⟩ := ih.mp hpq
          exact ⟨⟨rfl, h1⟩, fun hc ↦ h hc.symm, h2⟩
        · rintro ⟨⟨rfl, hr⟩, -, hb⟩
          exact ⟨before, after, ih.mpr ⟨hr, hb⟩, ⟨rfl, rfl⟩, rfl⟩

end BearerAuth.Text
