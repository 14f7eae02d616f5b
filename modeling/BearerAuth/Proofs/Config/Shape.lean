import BearerAuth.Config.Load
import BearerAuth.Proofs.Config.Reading
import BearerAuth.Proofs.Config.RoundTrip
import BearerAuth.Proofs.Json.Tree

/-!
# What an environment cannot change

References are expanded when a document has been read, and in its texts only.  So an expanded
document is the same tree with other texts (`expandJson_eq_iff`), and the documents that one text
gives in two environments have one shape, whatever the variables hold (`sameShape_expandJson`).
Quotes and braces in a value make no members: they stay in the text that they are put into.

The same is true of what is then read from these documents.  Numbers, the fields that are left out
and the length of lists are as they were, so two configurations of one text differ in their texts at
most, if they are for one backend (`ofText_sameShape`).
-/

namespace BearerAuth.Config

/-! ## Expanded documents -/

section

variable (lookup : String → Option String)

/-- The root of an expanded document is the root that it had, with its text expanded. -/
theorem node_expandJson (v : Json) :
    (expandJson lookup v).node = v.node.mapText (expand lookup) := by
  cases v with
  | array items =>
    rw [expandJson, expandItems_eq_map, Json.node, List.length_map]
    rfl
  | object members =>
    rw [expandJson, Json.node, map_fst_expandMembers]
    rfl
  | _ => rw [expandJson]; rfl

/-- The parts of an expanded document are the parts that it had, each expanded. -/
theorem parts_expandJson (v : Json) :
    (expandJson lookup v).parts = v.parts.map (expandJson lookup) := by
  cases v with
  | array items => rw [expandJson, expandItems_eq_map]; rfl
  | object members =>
    rw [expandJson, expandMembers_eq_map, Json.parts, Json.parts, List.map_map, List.map_map]
    rfl
  | _ => rw [expandJson]; rfl

/-- The same paths lead to the same nodes, with their texts expanded. -/
theorem node?_expandJson (v : Json) (path : List Nat) :
    (expandJson lookup v).node? path = (v.node? path).map (.mapText (expand lookup)) := by
  induction path generalizing v with
  | nil => rw [Json.node?_nil, Json.node?_nil, node_expandJson, Option.map_some]
  | cons i path ih =>
    rw [Json.node?_cons, Json.node?_cons, parts_expandJson, List.getElem?_map, Option.bind_map,
      Option.map_bind]
    exact Option.bind_congr fun part _ ↦ ih part

/-- A document is expanded by expanding its texts and leaving all else, and by nothing else. -/
theorem expandJson_eq_iff {v w : Json} :
    w = expandJson lookup v ↔
      ∀ path, w.node? path = (v.node? path).map (.mapText (expand lookup)) := by
  simp only [← node?_expandJson]
  constructor
  · rintro rfl path
    rfl
  · exact Json.eq_of_node?

end

/-- What is made of one document in two environments differs in texts at most. -/
theorem sameShape_expandJson (lookup lookup' : String → Option String) (v : Json) :
    (expandJson lookup v).SameShape (expandJson lookup' v) := by
  intro path
  simp only [node?_expandJson, Option.map_map, Function.comp_def, Json.Node.shape_mapText]

/-! ## Configurations -/

/-- What two environments make of one document has one shape, if it is for one backend. -/
theorem shape_eq_of_ofJson {lookup lookup' : String → Option String} {v : Json} {c c' : Config}
    (h : ofJson (expandJson lookup v) = .ok c) (h' : ofJson (expandJson lookup' v) = .ok c')
    (hkind : c.kind = c'.kind) : c.shape = c'.shape := by
  obtain ⟨r, hr, rfl⟩ := exists_isReadFrom (isReadFrom_of_ofJson h)
  obtain ⟨r', hr', rfl⟩ := exists_isReadFrom (isReadFrom_of_ofJson h')
  rw [kind_mapTexts, kind_mapTexts] at hkind
  rw [shape_mapTexts, shape_mapTexts, hr.unique hr' hkind]

/-! ## Texts in environments -/

/-- The document of a text in an environment. -/
def document? (env : Environment) (text : String) : Option Json :=
  (Json.ofText? text).map (expandJson env.value?)

/-- A configuration is what the document of its text says. -/
theorem ofText_eq (env : Environment) (text : String) :
    ofText env text = match document? env text with
      | none => .error (.notJson (Json.Fault.ofText text))
      | some doc => (ofJson doc).mapError .misshapen := by
  rw [ofText, document?]
  cases Json.ofText? text <;> rfl

/-- An expanded document has, at each path, the node that stood there before, with the text
expanded if it is one, and no document but this has them all.  So the documents of one text have
one shape in all environments, and the configurations that are read from these documents have one
shape for each backend. -/
theorem ofText_sameShape :
    (∀ (lookup : String → Option String) (v w : Json), w = expandJson lookup v ↔
      ∀ path, w.node? path = (v.node? path).map (.mapText (expand lookup))) ∧
    ∀ (text : String) (env env' : Environment),
      (ofText env text = match document? env text with
        | none => .error (.notJson (Json.Fault.ofText text))
        | some doc => (ofJson doc).mapError .misshapen) ∧
      Option.Rel Json.SameShape (document? env text) (document? env' text) ∧
      ∀ c c', ofText env text = .ok c → ofText env' text = .ok c' → c.kind = c'.kind →
        c.shape = c'.shape := by
  refine ⟨fun lookup v w ↦ expandJson_eq_iff lookup, fun text env env' ↦
    ⟨ofText_eq env text, ?_, fun c c' h h' hkind ↦ ?_⟩⟩
  · rw [document?, document?]
    cases Json.ofText? text with
    | none => exact .none
    | some v => exact .some (sameShape_expandJson _ _ v)
  · rw [ofText] at h h'
    cases hv : Json.ofText? text with
    | none => simp [hv] at h
    | some v =>
      rw [hv] at h h'
      exact shape_eq_of_ofJson (Except.mapError_eq_ok_iff.mp h) (Except.mapError_eq_ok_iff.mp h')
        hkind

/-- A pre-shared key that refers to a variable, and one that does not. -/
def referring : Config := .preSharedKeys ["$\x7bKEY\x7d", "plain"]

/-- The first key is what the variable holds. -/
theorem ofText_referring (env : Environment) :
    ofText env (Json.object referring.members).toText =
      .ok (.preSharedKeys [expand env.value? "$\x7bKEY\x7d", "plain"]) := by
  have hplain : expand env.value? "plain" = "plain" :=
    expand_eq_self _ (by simp [List.infix_cons_iff])
  have hkind : expand env.value? "pre_shared_key" = "pre_shared_key" :=
    expand_eq_self _ referring.not_infix_kind
  have hexpand : expandJson env.value? referring.toJson =
      (preSharedKeys [expand env.value? "$\x7bKEY\x7d", "plain"]).toJson := by
    simp [referring, toJson, kind, Json.ofStrings, expandJson, expandMembers, expandItems, hplain,
      hkind]
  simp only [ofText, Json.ofText?_object referring.isReread_members, ← toJson_eq, hexpand,
    ofJson_toJson, Except.mapError]

/-- An environment in which the variable holds what would end the list of keys and select another
backend. -/
def injecting : Environment where
  value? name := if name = "KEY" then some "\"],\"type\":\"noop\",\"keys\":[\"" else none
  read _ := .error .notFound

/-- An environment without variables. -/
def bare : Environment := ⟨fun _ ↦ none, fun _ ↦ .error .notFound⟩

/-- What the variable holds is one key, as the reference is without it. -/
theorem ofText_sameShape_injecting :
    ofText injecting (Json.object referring.members).toText =
        .ok (.preSharedKeys ["\"],\"type\":\"noop\",\"keys\":[\"", "plain"]) ∧
      ofText bare (Json.object referring.members).toText = .ok referring ∧
      (preSharedKeys ["\"],\"type\":\"noop\",\"keys\":[\"", "plain"]).shape = referring.shape := by
  have hcut : Cut "$\x7bKEY\x7d".toList [.reference "KEY".toList] :=
    @Cut.reference "KEY".toList [] [] (by decide) .nil
  have hinjecting : expand injecting.value? "$\x7bKEY\x7d" =
      "\"],\"type\":\"noop\",\"keys\":[\"" := by
    rw [expand, hcut.expandChars_eq]
    decide
  have hbare : expand bare.value? "$\x7bKEY\x7d" = "$\x7bKEY\x7d" := by
    rw [expand, hcut.expandChars_eq]
    decide
  have h := ofText_referring injecting
  have h' := ofText_referring bare
  rw [hinjecting] at h
  rw [hbare] at h'
  exact ⟨h, h', (ofText_sameShape.2 _ injecting bare).2.2 _ _ h h' rfl⟩

end BearerAuth.Config
