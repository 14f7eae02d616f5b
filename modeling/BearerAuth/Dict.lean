/-!
# Dictionaries with text keys

A `Dict α` is a list of entries in strictly increasing key order, the order of text being that of
its code points (which is also the order of its UTF-8 bytes).  Sorting makes the representation
canonical: two dictionaries with the same look-ups are equal (`Dict.ext_get?`), so equality of
payloads and claim maps is equality of what they hold and never of how they were built.
-/

namespace BearerAuth

universe u v

/-- A finite map from text, kept in increasing key order. -/
structure Dict (α : Type u) where
  /-- The entries, in increasing key order. -/
  entries : List (String × α)
  /-- Keys increase strictly, so that no key occurs twice. -/
  sorted : (entries.map Prod.fst).Pairwise (· < ·) := by simp

namespace Dict

variable {α : Type u} {β : Type v}

/-- Dictionaries with the same entries are equal. -/
@[ext]
theorem ext {d e : Dict α} (h : d.entries = e.entries) : d = e := by
  cases d; cases e; cases h; rfl

instance [DecidableEq α] : DecidableEq (Dict α) := fun d e ↦
  if h : d.entries = e.entries then isTrue (Dict.ext h)
  else isFalse fun he ↦ h (he ▸ rfl)

instance [Repr α] : Repr (Dict α) := ⟨fun d n ↦ reprPrec d.entries n⟩

/-- The dictionary with no entries. -/
def empty : Dict α := ⟨[], by simp⟩

instance : Inhabited (Dict α) := ⟨empty⟩

/-- Whether there is no entry. -/
def isEmpty (d : Dict α) : Bool := d.entries.isEmpty

/-- The keys, in increasing order. -/
def keys (d : Dict α) : List String := d.entries.map Prod.fst

/-- The values, in the order of their keys. -/
def values (d : Dict α) : List α := d.entries.map Prod.snd

/-- The value under a key. -/
def get? (d : Dict α) (key : String) : Option α := d.entries.lookup key

/-- Whether a key has a value. -/
def contains (d : Dict α) (key : String) : Bool := (d.get? key).isSome

/-! ## Sorted entry lists -/

/-- Puts an entry into its place in a sorted list of entries, taking the place of one of the same
key. -/
def insertEntry (key : String) (value : α) : List (String × α) → List (String × α)
  | [] => [(key, value)]
  | (k, a) :: rest =>
    if key < k then (key, value) :: (k, a) :: rest
    else if key = k then (key, value) :: rest
    else (k, a) :: insertEntry key value rest

/-- The keys after an insertion are the old ones and the new one. -/
theorem mem_keys_insertEntry {key x : String} {value : α} {l : List (String × α)} :
    x ∈ (insertEntry key value l).map Prod.fst ↔ x = key ∨ x ∈ l.map Prod.fst := by
  induction l with
  | nil => simp [insertEntry]
  | cons hd rest ih =>
    obtain ⟨k, a⟩ := hd
    rw [insertEntry]
    split
    · simp
    · split
      · next h => subst h; simp
      · simp only [List.map_cons, List.mem_cons, ih]
        constructor
        · rintro (h | h | h) <;> simp [h]
        · rintro (h | h | h) <;> simp [h]

/-- Insertion keeps the keys in increasing order. -/
theorem sorted_insertEntry (key : String) (value : α) {l : List (String × α)}
    (h : (l.map Prod.fst).Pairwise (· < ·)) :
    ((insertEntry key value l).map Prod.fst).Pairwise (· < ·) := by
  induction l with
  | nil => simp [insertEntry]
  | cons hd rest ih =>
    obtain ⟨k, a⟩ := hd
    simp only [List.map_cons, List.pairwise_cons] at h
    obtain ⟨hk, hrest⟩ := h
    rw [insertEntry]
    split
    · next hlt =>
      simp only [List.map_cons, List.pairwise_cons, List.mem_cons]
      refine ⟨?_, hk, hrest⟩
      rintro x (rfl | hx)
      · exact hlt
      · exact String.lt_trans hlt (hk x hx)
    · next hge =>
      split
      · next heq =>
        subst heq
        simpa only [List.map_cons, List.pairwise_cons] using ⟨hk, hrest⟩
      · next hne =>
        simp only [List.map_cons, List.pairwise_cons]
        refine ⟨fun x hx ↦ ?_, ih hrest⟩
        rcases mem_keys_insertEntry.mp hx with rfl | hx
        · exact Classical.byContradiction fun h ↦ hne (String.le_antisymm h hge)
        · exact hk x hx

/-- Looking up the key that was inserted, or another one. -/
theorem lookup_insertEntry (key x : String) (value : α) (l : List (String × α)) :
    (insertEntry key value l).lookup x = if x = key then some value else l.lookup x := by
  induction l with
  | nil => by_cases h : x = key <;> simp [insertEntry, List.lookup_cons, h, beq_eq_false_iff_ne.mpr]
  | cons hd rest ih =>
    obtain ⟨k, a⟩ := hd
    rw [insertEntry]
    split
    · by_cases h : x = key
      · simp [h]
      · rw [List.lookup_cons, beq_eq_false_iff_ne.mpr h, if_neg h]
    · split
      · next heq =>
        subst heq
        by_cases h : x = key
        · simp [h]
        · rw [List.lookup_cons, List.lookup_cons, beq_eq_false_iff_ne.mpr h, if_neg h]
      · next hne =>
        rw [List.lookup_cons, List.lookup_cons, ih]
        by_cases h : x = key
        · subst h
          simp [beq_eq_false_iff_ne.mpr hne]
        · simp [h]

/-- A key below all keys of a list is not found in it. -/
theorem lookup_of_lt {x : String} {l : List (String × α)} (h : ∀ k ∈ l.map Prod.fst, x < k) :
    l.lookup x = none := by
  refine List.lookup_eq_none_iff.mpr fun p hp ↦ ?_
  have hne : x ≠ p.1 := fun he ↦
    String.lt_irrefl x (by simpa [← he] using h p.1 (List.mem_map_of_mem hp))
  simpa using hne

/-! ## Operations -/

/-- The dictionary with `value` under `key`, in place of any value there before. -/
def insert (d : Dict α) (key : String) (value : α) : Dict α :=
  ⟨insertEntry key value d.entries, sorted_insertEntry key value d.sorted⟩

/-- The dictionary without the entry of `key`. -/
def erase (d : Dict α) (key : String) : Dict α :=
  ⟨d.entries.filter (·.1 ≠ key), d.sorted.sublist (List.filter_sublist.map _)⟩

/-- The dictionary of a list of entries; of several under one key the last counts. -/
def ofList (l : List (String × α)) : Dict α :=
  l.foldl (fun d e ↦ d.insert e.1 e.2) empty

/-- Every value replaced by its image. -/
def map (f : α → β) (d : Dict α) : Dict β :=
  ⟨d.entries.map fun e ↦ (e.1, f e.2), by simpa [Function.comp_def] using d.sorted⟩

/-- The entries whose value has an image, with that image. -/
def filterMap (f : String → α → Option β) (d : Dict α) : Dict β :=
  ofList (d.entries.filterMap fun e ↦ (f e.1 e.2).map (e.1, ·))

@[simp] theorem get?_empty (key : String) : (empty : Dict α).get? key = none := rfl

/-- What was put under a key is found there, and nothing else changes. -/
theorem get?_insert (d : Dict α) (key x : String) (value : α) :
    (d.insert key value).get? x = if x = key then some value else d.get? x :=
  lookup_insertEntry key x value d.entries

@[simp] theorem get?_insert_self (d : Dict α) (key : String) (value : α) :
    (d.insert key value).get? key = some value := by simp [get?_insert]

/-- After an erasure the key has no value, and nothing else changes. -/
theorem get?_erase (d : Dict α) (key x : String) :
    (d.erase key).get? x = if x = key then none else d.get? x := by
  simp only [get?, erase]
  induction d.entries with
  | nil => simp
  | cons hd rest ih =>
    obtain ⟨k, a⟩ := hd
    by_cases hk : k = key
    · subst hk
      by_cases hx : x = k
      · subst hx; simpa using ih
      · simpa [List.lookup_cons, beq_eq_false_iff_ne.mpr hx, hx] using ih
    · by_cases hx : x = k
      · subst hx; simp [hk]
      · simpa [List.lookup_cons, beq_eq_false_iff_ne.mpr hx, hk] using ih

/-- A key is present exactly when it has a value. -/
theorem mem_keys_iff {d : Dict α} {key : String} : key ∈ d.keys ↔ ∃ a, d.get? key = some a := by
  simp only [keys, get?]
  induction d.entries with
  | nil => simp
  | cons hd rest ih =>
    obtain ⟨k, a⟩ := hd
    by_cases hk : key = k
    · subst hk; simp
    · rw [List.lookup_cons, beq_eq_false_iff_ne.mpr hk]
      simp [hk, ih]

/-- Dictionaries that answer every look-up alike are equal. -/
theorem ext_get? {d e : Dict α} (h : ∀ key, d.get? key = e.get? key) : d = e := by
  obtain ⟨l, hl⟩ := d
  obtain ⟨m, hm⟩ := e
  simp only [get?] at h
  refine Dict.ext ?_
  simp only
  induction l generalizing m with
  | nil =>
    cases m with
    | nil => rfl
    | cons hd rest => obtain ⟨k, a⟩ := hd; simpa [List.lookup_cons] using h k
  | cons hd rest ih =>
    obtain ⟨k, a⟩ := hd
    cases m with
    | nil => simpa [List.lookup_cons] using h k
    | cons hd' rest' =>
      obtain ⟨k', a'⟩ := hd'
      simp only [List.map_cons, List.pairwise_cons] at hl hm
      have hkk : k = k' := by
        refine String.le_antisymm (fun hlt ↦ ?_) (fun hlt ↦ ?_)
        · have hk' := h k'
          have hne : k' ≠ k := fun he ↦ String.lt_irrefl k (he ▸ hlt)
          rw [List.lookup_cons, List.lookup_cons, beq_eq_false_iff_ne.mpr hne] at hk'
          rw [lookup_of_lt fun y hy ↦ String.lt_trans hlt (hl.1 y hy)] at hk'
          simp at hk'
        · have hk := h k
          have hne : k ≠ k' := fun he ↦ String.lt_irrefl k (he ▸ hlt)
          rw [List.lookup_cons, List.lookup_cons, beq_eq_false_iff_ne.mpr hne] at hk
          rw [lookup_of_lt fun y hy ↦ String.lt_trans hlt (hm.1 y hy)] at hk
          simp at hk
      subst hkk
      have haa : a = a' := by simpa [List.lookup_cons] using h k
      subst haa
      refine congrArg _ (ih hl.2 rest' hm.2 fun x ↦ ?_)
      by_cases hx : x = k
      · subst hx
        rw [lookup_of_lt fun y hy ↦ hl.1 y hy, lookup_of_lt fun y hy ↦ hm.1 y hy]
      · simpa [List.lookup_cons, beq_eq_false_iff_ne.mpr hx] using h x

end Dict

end BearerAuth
