import BearerAuth.Config.Expansion
import Mathlib.Data.List.Basic
import Mathlib.Data.List.TakeWhile

/-!
# What expansion leaves alone

A text is a sequence of fragments (`Cut`): characters, references, and at its end perhaps a
reference whose brace is never closed.  Expansion works fragment by fragment
(`Cut.expandChars_eq`), so a fragment that refers to no variable that is set keeps its place and its
characters.  There is one exception.  A reference that is left open is given the brace that it
lacks, so a text without references to set variables stays as it is just if it does not end in an
open one (`expand_of_unset`).

What holds of texts holds of documents: one whose texts all stay as they are stays as it is
(`expandJson_eq_self`).
-/

namespace BearerAuth.Config

/-! ## Fragments -/

/-- A part of a text. -/
inductive Fragment where
  /-- A character that begins no reference. -/
  | plain (c : Char)
  /-- A reference. -/
  | reference (name : List Char)
  /-- A reference whose brace is never closed. -/
  | unclosed (name : List Char)

namespace Fragment

/-- A fragment as it stands in the text. -/
def written : Fragment → List Char
  | plain c => [c]
  | reference name => '$' :: '{' :: (name ++ ['}'])
  | unclosed name => '$' :: '{' :: name

/-- What is made of a fragment, given what is made of a character and of a name. -/
def read {β : Type} (plain : Char → List β) (named : List Char → List β) : Fragment → List β
  | .plain c => plain c
  | .reference name | .unclosed name => named name

/-- What comes in place of a fragment. -/
def expanded (lookup : String → Option String) : Fragment → List Char :=
  read (fun c ↦ [c]) (referent lookup)

/-- The name that a fragment refers to, if it does. -/
def names : Fragment → List String := read (fun _ ↦ []) fun name ↦ [String.ofList name]

/-- What a fragment lacks to be closed. -/
def missing : Fragment → List Char
  | plain _ | reference _ => []
  | unclosed _ => ['}']

/-- A fragment that refers to no variable that is set stays as it is, but it is closed. -/
theorem expanded_of_unset {lookup : String → Option String} {f : Fragment}
    (h : ∀ name ∈ f.names, lookup name = none) : f.expanded lookup = f.written ++ f.missing := by
  cases f with
  | plain c => rfl
  | reference name | unclosed name =>
    have hname : lookup (String.ofList name) = none := h _ List.mem_cons_self
    simp [expanded, read, referent, hname, written, missing]

/-- Characters that begin no reference stay as they are. -/
theorem flatMap_expanded_plain (lookup : String → Option String) (cs : List Char) :
    (cs.map plain).flatMap (expanded lookup) = cs := by
  induction cs with
  | nil => rfl
  | cons c rest ih =>
    rw [List.map_cons, List.flatMap_cons, ih]
    rfl

end Fragment

/-- How a text is cut into fragments. -/
inductive Cut : List Char → List Fragment → Prop
  /-- The empty text has none. -/
  | nil : Cut [] []
  /-- A character stands for itself if no reference begins with it. -/
  | plain {c : Char} {rest : List Char} {fs : List Fragment} :
    ¬['$', '{'] <+: c :: rest → Cut rest fs → Cut (c :: rest) (.plain c :: fs)
  /-- A reference reaches to the first closing brace. -/
  | reference {name rest : List Char} {fs : List Fragment} :
    '}' ∉ name → Cut rest fs → Cut ('$' :: '{' :: (name ++ '}' :: rest)) (.reference name :: fs)
  /-- Without a closing brace it reaches to the end. -/
  | unclosed {name : List Char} : '}' ∉ name → Cut ('$' :: '{' :: name) [.unclosed name]

/-- Every text can be cut. -/
theorem exists_cut (cs : List Char) : ∃ fs, Cut cs fs := by
  induction hn : cs.length using Nat.strong_induction_on generalizing cs with
  | _ n ih =>
    subst hn
    cases cs with
    | nil => exact ⟨_, .nil⟩
    | cons c rest =>
      by_cases hbegins : ['$', '{'] <+: c :: rest
      · obtain ⟨tail, htail⟩ := hbegins
        obtain ⟨rfl, rfl⟩ : '$' = c ∧ '{' :: tail = rest := by simpa using htail
        by_cases hclosed : '}' ∈ tail
        · obtain ⟨name, after, rfl, hname⟩ := List.eq_append_cons_of_mem hclosed
          obtain ⟨fs, hfs⟩ := ih after.length (by simp; omega) after rfl
          exact ⟨_, .reference hname hfs⟩
        · exact ⟨_, .unclosed hclosed⟩
      · obtain ⟨fs, hfs⟩ := ih rest.length (by simp) rest rfl
        exact ⟨_, .plain hbegins hfs⟩

/-- The name of a reference is read up to the first closing brace, or to the end. -/
theorem span_name {name : List Char} (hname : '}' ∉ name) (tail : List Char)
    (htail : ∀ c ∈ tail.head?, c = '}') :
    (name ++ tail).takeWhile (· ≠ '}') = name ∧ (name ++ tail).dropWhile (· ≠ '}') = tail := by
  have hpass : ∀ c ∈ name, decide (c ≠ '}') = true := fun c hc ↦ by
    simpa using ne_of_mem_of_not_mem hc hname
  rw [List.takeWhile_append_of_pos hpass, List.dropWhile_append_of_pos hpass]
  cases tail with
  | nil => simp
  | cons c tail => simp [htail c rfl]

namespace Cut

variable {cs : List Char} {fs : List Fragment}

/-- Characters among which no reference begins are put before a text.  The last of them may be a
dollar sign, unless the text goes on with an opening brace. -/
theorem append_plain (h : Cut cs fs) {before : List Char} (hplain : ¬['$', '{'] <:+: before)
    (hnext : cs.head? ≠ some '{') : Cut (before ++ cs) (before.map .plain ++ fs) := by
  induction before with
  | nil => exact h
  | cons c rest ih =>
    have hrest : ¬['$', '{'] <:+: rest := fun hopens ↦
      hplain (hopens.trans (List.suffix_cons c rest).isInfix)
    refine .plain (fun hbegins ↦ ?_) (ih hrest)
    cases rest with
    | nil =>
      obtain ⟨-, tail, hcs⟩ : '$' = c ∧ ['{'] <+: cs := by simpa using hbegins
      exact hnext (by rw [← hcs]; rfl)
    | cons d rest =>
      obtain ⟨rfl, rfl⟩ : '$' = c ∧ '{' = d := by simpa using hbegins
      exact hplain (List.prefix_append ['$', '{'] rest).isInfix

/-- The fragments make up the text. -/
theorem flatMap_written (h : Cut cs fs) : fs.flatMap Fragment.written = cs := by
  induction h with
  | nil => rfl
  | plain _ _ ih => simp [Fragment.written, ih]
  | reference _ _ ih => simp [Fragment.written, ih]
  | unclosed _ => simp [Fragment.written]

/-- What reads a text from its front, a reference at a time, reads it fragment by fragment. -/
theorem eq_flatMap_read {β : Type} {g : List Char → List β} {plain : Char → List β}
    {named : List Char → List β} (hnil : g [] = []) (hsingle : ∀ c, g [c] = plain c)
    (hcons : ∀ c d rest, g (c :: d :: rest) =
      if c = '$' ∧ d = '{' then
        named (rest.takeWhile (· ≠ '}')) ++ g (rest.dropWhile (· ≠ '}')).tail
      else plain c ++ g (d :: rest))
    (h : Cut cs fs) : g cs = fs.flatMap (Fragment.read plain named) := by
  induction h with
  | nil => rw [hnil, List.flatMap_nil]
  | @plain c rest fs hbegins hcut ih =>
    rw [List.flatMap_cons, Fragment.read, ← ih]
    cases rest with
    | nil => rw [hsingle, hnil, List.append_nil]
    | cons d rest => rw [hcons, if_neg (by rintro ⟨rfl, rfl⟩; exact hbegins (by simp))]
  | @reference name rest fs hname _ ih =>
    obtain ⟨hread, hrest⟩ := span_name hname ('}' :: rest) (by simp)
    rw [hcons, if_pos ⟨rfl, rfl⟩, hread, hrest, List.tail_cons, ih, List.flatMap_cons,
      Fragment.read]
  | @unclosed name hname =>
    obtain ⟨hread, hrest⟩ := span_name hname [] (by simp)
    rw [List.append_nil] at hread hrest
    rw [hcons, if_pos ⟨rfl, rfl⟩, hread, hrest, List.tail_nil, hnil, List.flatMap_singleton,
      Fragment.read, List.append_nil]

/-- A text is expanded fragment by fragment. -/
theorem expandChars_eq (h : Cut cs fs) (lookup : String → Option String) :
    expandChars lookup cs = fs.flatMap (Fragment.expanded lookup) := by
  refine h.eq_flatMap_read (by rw [expandChars]) (fun c ↦ by rw [expandChars]) fun c d rest ↦ ?_
  rw [expandChars, List.singleton_append]

/-- A text refers to the names that its fragments refer to. -/
theorem namesIn_eq (h : Cut cs fs) : namesIn cs = fs.flatMap Fragment.names := by
  refine h.eq_flatMap_read (by rw [namesIn]) (fun c ↦ by rw [namesIn]) fun c d rest ↦ ?_
  rw [namesIn, List.singleton_append, List.nil_append]

end Cut

/-! ## References that are left open -/

/-- Whether a text ends in a reference whose brace is never closed. -/
def EndsOpen (cs : List Char) : Prop := ∃ name, '}' ∉ name ∧ '$' :: '{' :: name <:+ cs

/-- What stands behind a closing brace decides whether a text ends in an open reference. -/
theorem endsOpen_append_cons (before rest : List Char) :
    EndsOpen (before ++ '}' :: rest) ↔ EndsOpen rest := by
  refine exists_congr fun name ↦ and_congr_right fun hname ↦ ?_
  have hnone : '}' ∉ '$' :: '{' :: name := by simpa using hname
  constructor
  · intro hopen
    have hrest : '}' :: rest <:+ before ++ '}' :: rest := List.suffix_append _ _
    rcases List.suffix_or_suffix_of_suffix hopen hrest with h | h
    · rcases List.suffix_cons_iff.mp h with h | h
      · exact absurd (h ▸ List.mem_cons_self) hnone
      · exact h
    · exact absurd (h.subset List.mem_cons_self) hnone
  · exact fun hopen ↦ hopen.trans ((List.suffix_cons _ _).trans (List.suffix_append _ _))

namespace Cut

variable {cs : List Char} {fs : List Fragment}

/-- A text lacks a closing brace just if it ends in an open reference. -/
theorem flatMap_missing (h : Cut cs fs) :
    EndsOpen cs ∧ fs.flatMap Fragment.missing = ['}'] ∨
      ¬EndsOpen cs ∧ fs.flatMap Fragment.missing = [] := by
  induction h with
  | nil => exact .inr ⟨by simp [EndsOpen], rfl⟩
  | @plain c rest fs hbegins _ ih =>
    have hrest : EndsOpen (c :: rest) ↔ EndsOpen rest := by
      refine exists_congr fun name ↦ and_congr_right fun _ ↦ ?_
      rw [List.suffix_cons_iff]
      refine or_iff_right fun heq ↦ hbegins ?_
      rw [← heq]
      exact List.prefix_append _ name
    rwa [hrest]
  | @reference name rest fs _ _ ih =>
    rwa [show EndsOpen ('$' :: '{' :: (name ++ '}' :: rest)) ↔ EndsOpen rest from
      endsOpen_append_cons ('$' :: '{' :: name) rest]
  | @unclosed name hname => exact .inl ⟨⟨name, hname, List.suffix_refl _⟩, rfl⟩

/-- What a text lacks is at its end. -/
theorem flatMap_written_missing (h : Cut cs fs) :
    (fs.flatMap fun f ↦ f.written ++ f.missing) = cs ++ fs.flatMap Fragment.missing := by
  induction h with
  | nil => rfl
  | plain _ _ ih =>
    rw [List.flatMap_cons, List.flatMap_cons, ih]
    rfl
  | reference _ _ ih =>
    rw [List.flatMap_cons, List.flatMap_cons, ih]
    simp [Fragment.written, Fragment.missing]
  | unclosed _ => simp [Fragment.written, Fragment.missing]

/-- Without variables that are set a text gets what it lacks, and is else as it was. -/
theorem expandChars_of_unset (h : Cut cs fs) {lookup : String → Option String}
    (hunset : ∀ name ∈ namesIn cs, lookup name = none) :
    expandChars lookup cs = cs ++ fs.flatMap Fragment.missing := by
  rw [h.namesIn_eq] at hunset
  rw [h.expandChars_eq, ← h.flatMap_written_missing]
  refine List.flatMap_congr fun f hf ↦ Fragment.expanded_of_unset fun name hname ↦ ?_
  exact hunset name (List.mem_flatMap.mpr ⟨f, hf, hname⟩)

end Cut

/-! ## Texts that stay as they are -/

section

variable (lookup : String → Option String)

/-- A text in which no reference begins stays as it is. -/
theorem expand_eq_self {s : String} (h : ¬['$', '{'] <:+: s.toList) : expand lookup s = s := by
  have hcut : Cut (s.toList ++ []) (s.toList.map .plain ++ []) := Cut.nil.append_plain h (by simp)
  rw [List.append_nil, List.append_nil] at hcut
  rw [expand, hcut.expandChars_eq, Fragment.flatMap_expanded_plain, String.ofList_toList]

/-- A text is expanded fragment by fragment, and a fragment that refers to no variable that is set
keeps its characters; if it was left open, it is closed besides.  So a text all of whose names are
unset stays as it is if it does not end in an open reference, and else gains a brace. -/
theorem expand_of_unset (s : String) :
    (∃ fs, Cut s.toList fs ∧ fs.flatMap Fragment.written = s.toList ∧
      fs.flatMap (Fragment.expanded lookup) = (expand lookup s).toList ∧
      ∀ f ∈ fs, (∀ name ∈ f.names, lookup name = none) →
        f.expanded lookup = f.written ++ f.missing) ∧
    ((∀ name ∈ namesIn s.toList, lookup name = none) →
      (¬EndsOpen s.toList → expand lookup s = s) ∧
      (EndsOpen s.toList → expand lookup s = s ++ "\x7d")) := by
  obtain ⟨fs, hcut⟩ := exists_cut s.toList
  refine ⟨⟨fs, hcut, hcut.flatMap_written, ?_, fun _ _ h ↦ Fragment.expanded_of_unset h⟩,
    fun hunset ↦ ?_⟩
  · rw [expand, String.toList_ofList, hcut.expandChars_eq]
  · rw [expand, hcut.expandChars_of_unset hunset]
    rcases hcut.flatMap_missing with ⟨hopen, hmissing⟩ | ⟨hclosed, hmissing⟩
    · refine ⟨fun hclosed ↦ absurd hopen hclosed, fun _ ↦ ?_⟩
      rw [hmissing, String.ofList_append, String.ofList_toList]
    · refine ⟨fun _ ↦ ?_, fun hopen ↦ absurd hopen hclosed⟩
      rw [hmissing, List.append_nil, String.ofList_toList]

end

/-- Two references, neither to the variable that is set, and the second one left open. -/
theorem expand_of_unset_address :
    (∀ name ∈ namesIn "$$\x7bHOST\x7d:$\x7bPORT".toList,
      (if name = "HOME" then some "/root" else none) = none) ∧
    expand (fun name ↦ if name = "HOME" then some "/root" else none) "$$\x7bHOST\x7d:$\x7bPORT" =
      "$$\x7bHOST\x7d:$\x7bPORT\x7d" := by
  have hunset : ∀ name ∈ namesIn "$$\x7bHOST\x7d:$\x7bPORT".toList,
      (if name = "HOME" then some "/root" else none) = none := by
    simp [namesIn]
  have hopen : EndsOpen "$$\x7bHOST\x7d:$\x7bPORT".toList := ⟨"PORT".toList, by decide, by decide⟩
  obtain ⟨-, hnames⟩ := expand_of_unset (fun name ↦ if name = "HOME" then some "/root" else none)
    "$$\x7bHOST\x7d:$\x7bPORT"
  exact ⟨hunset, (hnames hunset).2 hopen⟩

/-- A text that ends in an open reference does not stay as it is, though nothing is set. -/
theorem expand_unclosed : expand (fun _ ↦ none) "pa$\x7bss" ≠ "pa$\x7bss" := by
  have hcut : Cut "pa$\x7bss".toList [.plain 'p', .plain 'a', .unclosed "ss".toList] :=
    .plain (by decide) (.plain (by decide) (.unclosed (by decide)))
  rw [expand, hcut.expandChars_eq]
  decide

/-! ## Documents that stay as they are -/

mutual

/-- The texts in a document. -/
def textsIn : Json → List String
  | .string s => [s]
  | .array items => textsInItems items
  | .object members => textsInMembers members
  | .null | .bool _ | .number _ => []

/-- The texts in some items. -/
def textsInItems : List Json → List String
  | [] => []
  | v :: rest => textsIn v ++ textsInItems rest

/-- The texts in some members. -/
def textsInMembers : List (String × Json) → List String
  | [] => []
  | (_, v) :: rest => textsIn v ++ textsInMembers rest

end

variable {lookup : String → Option String}

mutual

/-- A document stays as it is if its texts do. -/
theorem expandJson_eq_self : ∀ {v : Json}, (∀ s ∈ textsIn v, expand lookup s = s) →
    expandJson lookup v = v
  | .string s, h => by rw [expandJson, h s (by simp [textsIn])]
  | .array items, h => by rw [expandJson, expandItems_eq_self (by simpa [textsIn] using h)]
  | .object members, h => by rw [expandJson, expandMembers_eq_self (by simpa [textsIn] using h)]
  | .null, _ | .bool _, _ | .number _, _ => by rw [expandJson]

/-- Items stay as they are if their texts do. -/
theorem expandItems_eq_self : ∀ {items : List Json},
    (∀ s ∈ textsInItems items, expand lookup s = s) → expandItems lookup items = items
  | [], _ => by rw [expandItems]
  | v :: rest, h => by
    rw [textsInItems, List.forall_mem_append] at h
    rw [expandItems, expandJson_eq_self h.1, expandItems_eq_self h.2]

/-- Members stay as they are if their texts do. -/
theorem expandMembers_eq_self : ∀ {members : List (String × Json)},
    (∀ s ∈ textsInMembers members, expand lookup s = s) → expandMembers lookup members = members
  | [], _ => by rw [expandMembers]
  | (_, v) :: rest, h => by
    rw [textsInMembers, List.forall_mem_append] at h
    rw [expandMembers, expandJson_eq_self h.1, expandMembers_eq_self h.2]

end

/-! ## Items and members -/

section

variable (lookup : String → Option String)

theorem expandItems_eq_map (items : List Json) :
    expandItems lookup items = items.map (expandJson lookup) := by
  induction items with
  | nil => rfl
  | cons v rest ih => rw [expandItems, ih, List.map_cons]

theorem expandMembers_eq_map (members : List (String × Json)) :
    expandMembers lookup members = members.map fun p ↦ (p.1, expandJson lookup p.2) := by
  induction members with
  | nil => rfl
  | cons p rest ih => rw [expandMembers, ih, List.map_cons]

/-- Names of members are not expanded. -/
theorem map_fst_expandMembers (members : List (String × Json)) :
    (expandMembers lookup members).map Prod.fst = members.map Prod.fst := by
  rw [expandMembers_eq_map, List.map_map]
  rfl

end

end BearerAuth.Config
