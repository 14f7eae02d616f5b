import BearerAuth.Dict
import Mathlib.Data.List.Nodup

/-!
# Entries and look-ups

A dictionary is known by its look-ups (`Dict.ext_get?`).  Here the operations that go through the
list of entries are said in terms of look-ups too, so that nothing above has to know how a
dictionary is kept.
-/

namespace BearerAuth.Dict

universe u v

variable {α : Type u} {β : Type v}

/-- The values of an image are the images of the values. -/
theorem get?_map (f : α → β) (d : Dict α) (key : String) :
    (d.map f).get? key = (d.get? key).map f := by
  simp only [get?, map]
  induction d.entries with
  | nil => rfl
  | cons e rest ih =>
    obtain ⟨k, a⟩ := e
    simp only [List.map_cons, List.lookup_cons]
    cases key == k <;> simp [ih]

/-- No key of a dictionary occurs twice. -/
theorem nodup_keys (d : Dict α) : (d.entries.map Prod.fst).Nodup :=
  d.sorted.imp String.ne_of_lt

/-- Among entries with different keys, an entry is what is found under its key. -/
theorem mem_iff_lookup_eq {l : List (String × α)} (hl : (l.map Prod.fst).Nodup)
    {key : String} {a : α} : (key, a) ∈ l ↔ l.lookup key = some a := by
  induction l with
  | nil => simp
  | cons e rest ih =>
    obtain ⟨k, b⟩ := e
    obtain ⟨hk, hrest⟩ := List.nodup_cons.mp hl
    by_cases hkey : key = k
    · subst hkey
      have hnone : (key, a) ∉ rest := fun hmem ↦ hk (List.mem_map.mpr ⟨_, hmem, rfl⟩)
      simp [hnone, eq_comm]
    · rw [List.lookup_cons, beq_eq_false_iff_ne.mpr hkey]
      simp [hkey, ih hrest]

/-- An entry is what is found under its key. -/
theorem mem_entries_iff {d : Dict α} {key : String} {a : α} :
    (key, a) ∈ d.entries ↔ d.get? key = some a :=
  mem_iff_lookup_eq d.nodup_keys

/-- What holds of all entries holds of all that is found. -/
theorem forall_get?_iff {d : Dict α} {P : String → α → Prop} :
    (∀ key a, d.get? key = some a → P key a) ↔ ∀ e ∈ d.entries, P e.1 e.2 :=
  ⟨fun h _ he ↦ h _ _ (mem_entries_iff.mp he), fun h _ _ ha ↦ h _ (mem_entries_iff.mpr ha)⟩

/-- Among entries with increasing keys, at most one has a key: the one that is found under it. -/
theorem filter_key_eq {l : List (String × α)} (hl : (l.map Prod.fst).Pairwise (· < ·))
    (key : String) : l.filter (·.1 = key) = ((l.lookup key).map (key, ·)).toList := by
  induction l with
  | nil => rfl
  | cons e rest ih =>
    obtain ⟨k, b⟩ := e
    simp only [List.map_cons, List.pairwise_cons] at hl
    by_cases hk : k = key
    · subst hk
      simp [ih hl.2, lookup_of_lt hl.1]
    · rw [List.lookup_cons, beq_eq_false_iff_ne.mpr (Ne.symm hk), ← ih hl.2]
      simp [hk]

/-- Entries with different keys, put in one after the other, come before what was there. -/
theorem get?_foldl_insert {l : List (String × α)} (hl : (l.map Prod.fst).Nodup) (d : Dict α)
    (key : String) :
    (l.foldl (fun d e ↦ d.insert e.1 e.2) d).get? key = (l.lookup key).or (d.get? key) := by
  induction l generalizing d with
  | nil => rfl
  | cons e rest ih =>
    obtain ⟨k, a⟩ := e
    obtain ⟨hk, hrest⟩ := List.nodup_cons.mp hl
    rw [List.foldl_cons, ih hrest, get?_insert]
    by_cases hkey : key = k
    · subst hkey
      have hnone : rest.lookup key = none := List.lookup_eq_none_iff.mpr fun p hp ↦ by
        simpa using (ne_of_mem_of_not_mem (List.mem_map_of_mem (f := Prod.fst) hp) hk).symm
      simp [hnone]
    · rw [List.lookup_cons, beq_eq_false_iff_ne.mpr hkey, if_neg hkey]

/-- In the dictionary of entries with different keys an entry is found under its key. -/
theorem get?_ofList {l : List (String × α)} (hl : (l.map Prod.fst).Nodup) (key : String) :
    (ofList l).get? key = l.lookup key := by
  rw [ofList, get?_foldl_insert hl, get?_empty, Option.or_none]

/-- What is found after insertions was inserted or was there before. -/
theorem mem_or_get?_of_foldl_insert {l : List (String × α)} {d : Dict α} {key : String} {a : α}
    (h : (l.foldl (fun d e ↦ d.insert e.1 e.2) d).get? key = some a) :
    (key, a) ∈ l ∨ d.get? key = some a := by
  induction l generalizing d with
  | nil => exact .inr h
  | cons e rest ih =>
    rcases ih h with hmem | hget
    · exact .inl (.tail _ hmem)
    · rw [get?_insert] at hget
      split at hget
      · next hkey =>
        cases hget
        exact .inl (hkey ▸ List.mem_cons_self)
      · exact .inr hget

/-- What is found in a dictionary is one of the entries it was made of. -/
theorem mem_of_get?_ofList {l : List (String × α)} {key : String} {a : α}
    (h : (ofList l).get? key = some a) : (key, a) ∈ l := by
  rcases mem_or_get?_of_foldl_insert h with hmem | hget
  · exact hmem
  · rw [get?_empty] at hget
    cases hget

/-- The dictionary of entries with different keys has these entries. -/
theorem entries_ofList_perm {l : List (String × α)} (hl : (l.map Prod.fst).Nodup) :
    (ofList l).entries.Perm l := by
  have hentries : (ofList l).entries.Nodup := .of_map Prod.fst (ofList l).nodup_keys
  refine (List.perm_ext_iff_of_nodup hentries (.of_map Prod.fst hl)).mpr fun e ↦ ?_
  rw [mem_entries_iff, get?_ofList hl, mem_iff_lookup_eq hl]

/-- The dictionary of entries with different keys does not depend on their order. -/
theorem ofList_perm {l m : List (String × α)} (hperm : l.Perm m) (hl : (l.map Prod.fst).Nodup) :
    ofList l = ofList m := by
  have hm : (m.map Prod.fst).Nodup := (hperm.map Prod.fst).nodup_iff.mp hl
  refine ext_get? fun key ↦ Option.ext fun a ↦ ?_
  rw [get?_ofList hl, get?_ofList hm, ← mem_iff_lookup_eq hl, ← mem_iff_lookup_eq hm,
    hperm.mem_iff]

/-- The dictionary of its own entries. -/
@[simp] theorem ofList_entries (d : Dict α) : ofList d.entries = d := by
  refine ext_get? fun key ↦ ?_
  rw [get?_ofList d.nodup_keys, get?]

end BearerAuth.Dict
