import BearerAuth.Json.Basic
import Mathlib.Data.List.Basic

/-!
# Documents as trees

A document is a tree.  At the end of each path into it stands a node (`Json.node?`): a value of
its own, the length of a list, or the names of an object.  A path goes by positions, so where names
are the same, paths by names lead to the same places too.  The nodes at all paths make up the
document (`Json.eq_of_node?`).

Two documents have the same shape if their nodes are the same but for what the texts say
(`Json.SameShape`).
-/

namespace BearerAuth.Json

/-- What stands at one place of a document, without what stands below. -/
inductive Node where
  /-- The value `null`. -/
  | null
  /-- A truth value. -/
  | bool (b : Bool)
  /-- A number. -/
  | number (n : Number)
  /-- A text. -/
  | text (s : String)
  /-- A list of some length. -/
  | array (length : Nat)
  /-- An object with members of some names. -/
  | object (names : List String)
  deriving DecidableEq

/-- The node with another text, if it is a text. -/
def Node.mapText (f : String → String) : Node → Node
  | text s => text (f s)
  | node => node

/-- The node without what its text says. -/
def Node.shape : Node → Node := mapText fun _ ↦ ""

theorem Node.shape_mapText (f : String → String) (n : Node) : (n.mapText f).shape = n.shape := by
  cases n <;> rfl

/-! ## Nodes and parts -/

/-- The node at the root of a document. -/
def node : Json → Node
  | .null => .null
  | .bool b => .bool b
  | .number n => .number n
  | .string s => .text s
  | .array items => .array items.length
  | .object members => .object (members.map Prod.fst)

/-- What stands below the root: the items of a list, or the values of an object, in their order. -/
def parts : Json → List Json
  | .array items => items
  | .object members => members.map Prod.snd
  | .null | .bool _ | .number _ | .string _ => []

/-- The root tells how many parts stand below. -/
theorem length_parts {v w : Json} (h : v.node = w.node) : v.parts.length = w.parts.length := by
  cases v <;> cases w <;> simp only [node, reduceCtorEq, Node.array.injEq, Node.object.injEq] at h
  case array.array => exact h
  case object.object members members' =>
    simpa [parts] using congrArg List.length h
  all_goals rfl

/-- A document is made up of its root and of what stands below. -/
theorem eq_of_node_of_parts {v w : Json} (hnode : v.node = w.node) (hparts : v.parts = w.parts) :
    v = w := by
  cases v <;> cases w <;> simp only [node, reduceCtorEq] at hnode
  case array.array => exact congrArg array hparts
  case object.object members members' =>
    have hnames : members.map Prod.fst = members'.map Prod.fst := Node.object.inj hnode
    exact congrArg object ((List.zip_of_prod hnames hparts).trans (List.zip_of_prod rfl rfl).symm)
  all_goals cases hnode; rfl

mutual

/-- What holds of a document if it holds of its parts holds of all documents. -/
theorem induction_parts {motive : Json → Prop} (h : ∀ v, (∀ p ∈ v.parts, motive p) → motive v) :
    ∀ v, motive v
  | .array items => h _ (forall_mem_items h items)
  | .object members => h _ (forall_mem_members h members)
  | .null | .bool _ | .number _ | .string _ => h _ (by simp [parts])

/-- Then it holds of the items of a list. -/
theorem forall_mem_items {motive : Json → Prop} (h : ∀ v, (∀ p ∈ v.parts, motive p) → motive v) :
    ∀ items : List Json, ∀ p ∈ items, motive p
  | [] => by simp
  | v :: rest => List.forall_mem_cons.mpr ⟨induction_parts h v, forall_mem_items h rest⟩

/-- Then it holds of the values of an object. -/
theorem forall_mem_members {motive : Json → Prop} (h : ∀ v, (∀ p ∈ v.parts, motive p) → motive v) :
    ∀ members : List (String × Json), ∀ p ∈ members.map Prod.snd, motive p
  | [] => by simp
  | (_, v) :: rest => by
    rw [List.map_cons]
    exact List.forall_mem_cons.mpr ⟨induction_parts h v, forall_mem_members h rest⟩

end

/-! ## Paths -/

/-- The part of a document at the end of a path: each step goes to the part at a position. -/
def at? : Json → List Nat → Option Json
  | v, [] => some v
  | v, i :: path => v.parts[i]?.bind fun part ↦ part.at? path

/-- The node at the end of a path. -/
def node? (v : Json) (path : List Nat) : Option Node := (v.at? path).map node

theorem node?_nil (v : Json) : v.node? [] = some v.node := rfl

theorem node?_cons (v : Json) (i : Nat) (path : List Nat) :
    v.node? (i :: path) = v.parts[i]?.bind fun part ↦ part.node? path := by
  rw [node?, at?, Option.map_bind]
  rfl

/-- The nodes at all paths make up the document. -/
theorem eq_of_node? {v w : Json} (h : ∀ path, v.node? path = w.node? path) : v = w := by
  induction v using induction_parts generalizing w with
  | _ v ih =>
    have hnode : v.node = w.node := Option.some.inj (h [])
    -- the paths through a part are the paths of the part behind its position
    refine eq_of_node_of_parts hnode (List.ext_getElem (length_parts hnode) fun i hv hw ↦ ?_)
    refine ih _ (List.getElem_mem hv) fun path ↦ ?_
    simpa [node?_cons, hv, hw] using h (i :: path)

/-- Whether two documents differ in their texts at most: at each path there is the same node in
both, but for what it says if it is a text, or none in either. -/
def SameShape (v w : Json) : Prop :=
  ∀ path, (v.node? path).map Node.shape = (w.node? path).map Node.shape

end BearerAuth.Json
