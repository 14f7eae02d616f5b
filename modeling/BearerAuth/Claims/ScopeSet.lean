import BearerAuth.Text.Split

/-!
# Sets of scopes

A scope set is a list of texts in strictly increasing order, so that it has one written form: its
scopes in that order with single spaces between them.
-/

namespace BearerAuth

/-- A finite set of scopes. -/
@[ext]
structure ScopeSet where
  /-- The scopes in increasing order. -/
  toList : List String
  /-- No scope stands before a smaller or an equal one. -/
  sorted : toList.Pairwise (· < ·) := by simp
  deriving DecidableEq, Repr

namespace ScopeSet

/-- The set without scopes. -/
def empty : ScopeSet := ⟨[], by simp⟩

instance : Inhabited ScopeSet := ⟨empty⟩

instance : Membership String ScopeSet := ⟨fun s x ↦ x ∈ s.toList⟩

/-- Membership is membership in the list. -/
theorem mem_iff {s : ScopeSet} {x : String} : x ∈ s ↔ x ∈ s.toList := Iff.rfl

instance (x : String) (s : ScopeSet) : Decidable (x ∈ s) :=
  inferInstanceAs (Decidable (x ∈ s.toList))

/-- Puts a text into its place in a sorted list. -/
def insertSorted (x : String) : List String → List String
  | [] => [x]
  | y :: rest =>
    if x < y then x :: y :: rest
    else if x = y then y :: rest
    else y :: insertSorted x rest

/-- The members after an insertion are the old ones and the new one. -/
theorem mem_insertSorted {x y : String} {l : List String} :
    y ∈ insertSorted x l ↔ y = x ∨ y ∈ l := by
  induction l with
  | nil => simp [insertSorted]
  | cons z rest ih =>
    rw [insertSorted]
    split
    · simp
    · split
      · next h => subst h; simp
      · simp only [List.mem_cons, ih]
        constructor
        · rintro (h | h | h) <;> simp [h]
        · rintro (h | h | h) <;> simp [h]

/-- Insertion keeps a list sorted. -/
theorem sorted_insertSorted (x : String) {l : List String} (h : l.Pairwise (· < ·)) :
    (insertSorted x l).Pairwise (· < ·) := by
  induction l with
  | nil => simp [insertSorted]
  | cons z rest ih =>
    obtain ⟨hz, hrest⟩ := List.pairwise_cons.mp h
    rw [insertSorted]
    split
    · next hlt =>
      refine List.pairwise_cons.mpr ⟨fun y hy ↦ ?_, h⟩
      rcases List.mem_cons.mp hy with rfl | hy
      · exact hlt
      · exact String.lt_trans hlt (hz y hy)
    · next hge =>
      split
      · exact h
      · next hne =>
        refine List.pairwise_cons.mpr ⟨fun y hy ↦ ?_, ih hrest⟩
        rcases mem_insertSorted.mp hy with rfl | hy
        · exact Classical.byContradiction fun hlt ↦ hne (String.le_antisymm hlt hge)
        · exact hz y hy

/-- The set with one more scope. -/
def insert (s : ScopeSet) (x : String) : ScopeSet :=
  ⟨insertSorted x s.toList, sorted_insertSorted x s.sorted⟩

/-- The set without a scope. -/
def erase (s : ScopeSet) (x : String) : ScopeSet :=
  ⟨s.toList.filter (· ≠ x), s.sorted.sublist List.filter_sublist⟩

/-- Whether a scope is in the set. -/
def contains (s : ScopeSet) (x : String) : Bool := x ∈ s

/-- How many scopes there are. -/
def size (s : ScopeSet) : Nat := s.toList.length

/-- Whether there is no scope. -/
def isEmpty (s : ScopeSet) : Bool := s.toList.isEmpty

/-- The set with all texts of a list. -/
def insertMany (s : ScopeSet) (l : List String) : ScopeSet := l.foldl insert s

/-- The set of the texts of a list. -/
def ofList (l : List String) : ScopeSet := empty.insertMany l

/-- The scopes between the spaces of a text; an empty one is none. -/
def parse (text : String) : ScopeSet :=
  ofList (((Text.split ' ' text.toList).filter (!·.isEmpty)).map String.ofList)

/-- The scopes in increasing order with spaces between them. -/
def toText (s : ScopeSet) : String := String.ofList ([' '].intercalate (s.toList.map String.toList))

/-- Insertion adds one member. -/
@[simp] theorem mem_insert {s : ScopeSet} {x y : String} : y ∈ s.insert x ↔ y = x ∨ y ∈ s :=
  mem_insertSorted

/-- Erasure takes one member away. -/
@[simp] theorem mem_erase {s : ScopeSet} {x y : String} : y ∈ s.erase x ↔ y ∈ s ∧ y ≠ x := by
  simp [mem_iff, erase]

/-- The empty set has no member. -/
@[simp] theorem notMem_empty {x : String} : ¬x ∈ empty := by simp [mem_iff, empty]

/-- Many insertions add the members of a list. -/
@[simp] theorem mem_insertMany {s : ScopeSet} {l : List String} {x : String} :
    x ∈ s.insertMany l ↔ x ∈ s ∨ x ∈ l := by
  induction l generalizing s with
  | nil => simp [insertMany]
  | cons y rest ih =>
    have hstep : s.insertMany (y :: rest) = (s.insert y).insertMany rest := rfl
    rw [hstep, ih, mem_insert, List.mem_cons]
    constructor
    · rintro ((h | h) | h) <;> simp [h]
    · rintro (h | h | h) <;> simp [h]

/-- The members of the set of a list are those of the list. -/
@[simp] theorem mem_ofList {l : List String} {x : String} : x ∈ ofList l ↔ x ∈ l := by
  simp [ofList]

end ScopeSet

end BearerAuth
