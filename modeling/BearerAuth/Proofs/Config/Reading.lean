import BearerAuth.Config.Basic
import BearerAuth.Proofs.Config.Expansion
import BearerAuth.Proofs.Token.Policy

/-!
# Reading expanded documents

A reader that is given an expanded document fails where it failed before, and else gives what it
gave, with the texts expanded: the two results mirror each other (`Mirrors`).  This holds of the
readers of single values, so of all records whose blank form has no reference (`Form.Expands`), and
hence of configurations, each read for the backend that it is of (`exists_isReadFrom`).  Which
backend that is may itself be a matter of a reference.
-/

namespace BearerAuth.Config

/-! ## Results that mirror each other -/

/-- Whether two results fail together, and the second is else the image of the first. -/
inductive Mirrors {α β : Type} (f : α → β) : Except ShapeFault α → Except ShapeFault β → Prop
  /-- Both are there. -/
  | ok (a : α) : Mirrors f (.ok a) (.ok (f a))
  /-- Both fail, the faults being about values that may differ. -/
  | error (e e' : ShapeFault) : Mirrors f (.error e) (.error e')

namespace Mirrors

variable {α β γ δ : Type} {f : α → β} {g : γ → δ} {r : Except ShapeFault α}
  {r' : Except ShapeFault β}

theorem refl (r : Except ShapeFault α) : Mirrors id r r := by
  cases r with
  | ok a => exact .ok a
  | error e => exact .error e e

/-- What is made of two results mirrors each other if the results do. -/
theorem bind (h : Mirrors f r r') {k : α → Except ShapeFault γ} {k' : β → Except ShapeFault δ}
    (hk : ∀ a, Mirrors g (k a) (k' (f a))) : Mirrors g (r >>= k) (r' >>= k') := by
  cases h with
  | ok a => exact hk a
  | error e e' => exact .error e e'

/-- Results that may be left out mirror each other if they do where they are there. -/
theorem map_some (h : Mirrors f r r') : Mirrors (Option.map f) (r.map some) (r'.map some) := by
  cases h with
  | ok a => exact .ok (some a)
  | error e e' => exact .error e e'

/-- What is there is the image of something. -/
theorem exists_of_ok {b : β} (h : Mirrors f r (.ok b)) : ∃ a, r = .ok a ∧ f a = b := by
  cases h with
  | ok a => exact ⟨a, rfl, rfl⟩

end Mirrors

/-! ## Reading expanded documents -/

section

variable (lookup : String → Option String)

theorem mirrors_readText (expected : String) (v : Json) :
    Mirrors (expand lookup) (readText expected v) (readText expected (expandJson lookup v)) := by
  cases v with
  | string s => rw [expandJson]; exact .ok s
  | _ => rw [expandJson]; exact .error _ _

theorem mirrors_readNumber (v : Json) :
    Mirrors id (readNumber v) (readNumber (expandJson lookup v)) := by
  cases v with
  | null | bool | number => rw [expandJson]; exact .refl _
  | string | array | object => rw [expandJson]; exact .error _ _

theorem mirrors_readTexts (v : Json) :
    Mirrors (List.map (expand lookup)) (readTexts v) (readTexts (expandJson lookup v)) := by
  cases v with
  | array items =>
    rw [expandJson, expandItems_eq_map, readTexts, readTexts]
    induction items with
    | nil => exact .ok []
    | cons v rest ih =>
      rw [List.map_cons, List.mapM_cons, List.mapM_cons]
      exact (mirrors_readText lookup _ v).bind fun s ↦ ih.bind fun l ↦ .ok (s :: l)
  | _ => rw [expandJson]; exact .error _ _

/-- What may be `null` is `null` in both documents or in neither. -/
theorem mirrors_readOptional {α : Type} {f : α → α} {read : Json → Except ShapeFault α}
    (h : ∀ v, Mirrors f (read v) (read (expandJson lookup v))) (v : Json) :
    Mirrors (Option.map f) (readOptional read v) (readOptional read (expandJson lookup v)) := by
  have hv := h v
  cases v with
  | null => rw [expandJson]; exact .ok none
  | _ => rw [expandJson] at hv ⊢; exact hv.map_some

end

/-! ## Records of expanded documents -/

namespace Form

variable {α : Type} {lookup : String → Option String} {f : α → α} {form : Form α}

/-- Whether a record may be read field by field before or after expansion. -/
structure Expands (lookup : String → Option String) (f : α → α) (form : Form α) : Prop where
  /-- In the blank record there is nothing to expand. -/
  blank : f form.blank = form.blank
  /-- What is put into a field is expanded there. -/
  put : ∀ field ∈ form.fields, ∀ a v,
    Mirrors f (field.put a v) (field.put (f a) (expandJson lookup v))

namespace Expands

variable (h : form.Expands lookup f)
include h

/-- The members of an object are put in alike. -/
theorem mirrors_fill (a : α) (members : List (String × Json)) :
    Mirrors f (form.fill a members) (form.fill (f a) (expandMembers lookup members)) := by
  induction members generalizing a with
  | nil => exact .ok a
  | cons p rest ih =>
    obtain ⟨name, v⟩ := p
    rw [expandMembers, fill, fill]
    cases hfield : form.fields.find? (·.name = name) with
    | none => exact ih a
    | some field =>
      have hput := h.put field (List.mem_of_find?_eq_some hfield) a v
      dsimp only
      -- both records take the value, or both readings end here
      generalize field.put a v = r, field.put (f a) (expandJson lookup v) = r' at hput
      rcases hput with b | ⟨e, e'⟩
      · exact ih b
      · exact .error e e'

/-- A record is read alike from an object and from the expanded one. -/
theorem mirrors_ofMembers (members : List (String × Json)) :
    Mirrors f (form.ofMembers members) (form.ofMembers (expandMembers lookup members)) := by
  have hfill := h.mirrors_fill form.blank members
  rw [h.blank] at hfill
  rw [ofMembers, ofMembers, map_fst_expandMembers]
  generalize form.fill form.blank members = r,
    form.fill form.blank (expandMembers lookup members) = r' at hfill
  rcases hfill with a | ⟨e, e'⟩
  · cases form.required.find? fun name ↦ name ∉ members.map Prod.fst with
    | none => exact .ok a
    | some name => exact .error _ _
  · exact .error e e'

/-- The items of a list are put in alike. -/
theorem mirrors_fillInOrder (index : Nat) (a : α) {fields : List (Field α)}
    (hfields : ∀ field ∈ fields, field ∈ form.fields) (items : List Json) :
    Mirrors f (form.fillInOrder index a fields items)
      (form.fillInOrder index (f a) fields (expandItems lookup items)) := by
  induction fields generalizing index a items with
  | nil =>
    cases items with
    | nil => exact .ok a
    | cons v rest => exact .error _ _
  | cons field fields ih =>
    obtain ⟨hfield, hrest⟩ := List.forall_mem_cons.mp hfields
    cases items with
    | nil =>
      have hnil := ih (index + 1) a hrest []
      rw [expandItems] at hnil ⊢
      rw [fillInOrder, fillInOrder]
      split
      · exact .error _ _
      · exact hnil
    | cons v rest =>
      rw [expandItems, fillInOrder, fillInOrder]
      have hput := h.put field hfield a v
      generalize field.put a v = r, field.put (f a) (expandJson lookup v) = r' at hput
      rcases hput with b | ⟨e, e'⟩
      · exact ih (index + 1) b hrest rest
      · exact .error e e'

/-- A record is read alike from a list and from the expanded one. -/
theorem mirrors_ofItems (items : List Json) :
    Mirrors f (form.ofItems items) (form.ofItems (expandItems lookup items)) := by
  have hfill := h.mirrors_fillInOrder 0 form.blank (fun _ hfield ↦ hfield) items
  rwa [h.blank] at hfill

end Expands

/-- What the fields of a document say, whichever backend it names. -/
def ofDocument (form : Form α) : Json → Except ShapeFault α
  | .object members => form.ofMembers members
  | .array (_ :: items) => form.ofItems items
  | _ => .error (.missing "type")

/-- A record is read alike from a document and from the expanded one. -/
theorem Expands.mirrors_ofDocument (h : form.Expands lookup f) (v : Json) :
    Mirrors f (form.ofDocument v) (form.ofDocument (expandJson lookup v)) := by
  cases v with
  | object members => rw [expandJson]; exact h.mirrors_ofMembers members
  | array items =>
    cases items with
    | nil => exact .error _ _
    | cons tag items => rw [expandJson, expandItems]; exact h.mirrors_ofItems items
  | _ => rw [expandJson]; exact .error _ _

/-- A record that is read from an expanded document is one that is read from the document,
expanded. -/
theorem Expands.exists_of_ofDocument (h : form.Expands lookup f) {v : Json} {b : α}
    (hb : form.ofDocument (expandJson lookup v) = .ok b) :
    ∃ a, form.ofDocument v = .ok a ∧ f a = b := by
  have hmirrors := h.mirrors_ofDocument v
  rw [hb] at hmirrors
  exact hmirrors.exists_of_ok

end Form

end BearerAuth.Config

namespace BearerAuth

/-! ## Configurations without their texts -/

/-- The configuration with other texts. -/
def JwtConfig.mapTexts (f : String → String) (c : JwtConfig) : JwtConfig where
  algorithm := f c.algorithm
  key := c.key.map f
  privateKeyPath := c.privateKeyPath.map f
  publicKeyPath := c.publicKeyPath.map f
  keyId := c.keyId.map f
  leewaySeconds := c.leewaySeconds

/-- The configuration with other texts. -/
def OidcConfig.mapTexts (f : String → String) (c : OidcConfig) : OidcConfig where
  issuerUrl := f c.issuerUrl
  audience := f c.audience
  algorithm := f c.algorithm
  refreshIntervalSeconds := c.refreshIntervalSeconds
  httpTimeoutSeconds := c.httpTimeoutSeconds
  leewaySeconds := c.leewaySeconds

namespace Config

/-- The configuration with other texts. -/
def mapTexts (f : String → String) : Config → Config
  | noop => noop
  | jwt c => jwt (c.mapTexts f)
  | oidc c => oidc (c.mapTexts f)
  | preSharedKeys keys => preSharedKeys (keys.map f)

/-- The configuration without what its texts say: its backend, its numbers, which of its texts are
there and how many keys. -/
def shape : Config → Config := mapTexts fun _ ↦ ""

theorem kind_mapTexts (f : String → String) (c : Config) : (c.mapTexts f).kind = c.kind := by
  cases c <;> rfl

theorem shape_mapTexts (f : String → String) (c : Config) : (c.mapTexts f).shape = c.shape := by
  cases c <;> simp [shape, mapTexts, JwtConfig.mapTexts, OidcConfig.mapTexts, Function.comp_def]

/-! ## Configurations of expanded documents -/

/-- What a document says of a configuration's backend, if it is read for this backend. -/
def IsReadFrom (v : Json) : Config → Prop
  | noop => True
  | jwt c => jwtForm.ofDocument v = .ok c
  | oidc c => oidcForm.ofDocument v = .ok c
  | preSharedKeys keys => preSharedKeysForm.ofDocument v = .ok keys

/-- A document says one thing of each backend. -/
theorem IsReadFrom.unique {v : Json} {c c' : Config} (h : c.IsReadFrom v) (h' : c'.IsReadFrom v)
    (hkind : c.kind = c'.kind) : c = c' := by
  cases c <;> cases c' <;> simp only [kind, String.reduceEq] at hkind
  case noop.noop => rfl
  case jwt.jwt => exact congrArg jwt (Except.ok.inj (h.symm.trans h'))
  case oidc.oidc => exact congrArg oidc (Except.ok.inj (h.symm.trans h'))
  case preSharedKeys.preSharedKeys =>
    exact congrArg preSharedKeys (Except.ok.inj (h.symm.trans h'))

/-- What is given as part of something is there. -/
theorem exists_of_map_eq_ok {α : Type} {r : Except ShapeFault α} {f : α → Config} {c : Config}
    (h : (do return f (← r)) = Except.ok c) : ∃ a, r = .ok a ∧ f a = c := by
  obtain ⟨a, ha, hf⟩ := Except.bind_eq_ok_iff.mp h
  exact ⟨a, ha, Except.ok.inj hf⟩

/-- The configuration of a backend is read from the document if its fields are, and the backend
without fields is read from any. -/
theorem isReadFrom_of_named {v : Json} {c : Config} {name : String}
    {unnamed : Except ShapeFault Config} (hunnamed : unnamed = .ok c → c = noop)
    (h : (match name with
      | "jwt" => do return jwt (← jwtForm.ofDocument v)
      | "oidc" => do return oidc (← oidcForm.ofDocument v)
      | "pre_shared_key" => do return preSharedKeys (← preSharedKeysForm.ofDocument v)
      | _ => unnamed) = .ok c) : c.IsReadFrom v := by
  split at h
  · obtain ⟨a, ha, rfl⟩ := exists_of_map_eq_ok h
    exact ha
  · obtain ⟨a, ha, rfl⟩ := exists_of_map_eq_ok h
    exact ha
  · obtain ⟨a, ha, rfl⟩ := exists_of_map_eq_ok h
    exact ha
  · rw [hunnamed h]
    trivial

/-- The configuration of a document is read from it. -/
theorem isReadFrom_of_ofJson {v : Json} {c : Config} (h : ofJson v = .ok c) : c.IsReadFrom v := by
  cases v with
  | object members =>
    rw [ofJson, ofMembers] at h
    split at h
    · cases h
    · obtain ⟨name, -, h⟩ := Except.bind_eq_ok_iff.mp h
      exact isReadFrom_of_named (fun hnoop ↦ (Except.ok.inj hnoop).symm) h
  | array items =>
    cases items with
    | nil => cases h
    | cons tag items =>
      obtain ⟨name, -, h⟩ := Except.bind_eq_ok_iff.mp h
      refine isReadFrom_of_named (fun hnoop ↦ ?_) h
      split at hnoop
      · exact (Except.ok.inj hnoop).symm
      · cases hnoop
  | _ => cases h

section

variable (lookup : String → Option String)

theorem expands_jwtForm : jwtForm.Expands lookup (JwtConfig.mapTexts (expand lookup)) := by
  have halgorithm : expand lookup "HS256" = "HS256" := expand_eq_self lookup (by decide)
  refine ⟨?_, ?_⟩
  · simp [jwtForm, JwtConfig.mapTexts, halgorithm]
  · have htext := mirrors_readText lookup
    have hoptional (expected : String) (v : Json) := mirrors_readOptional lookup (htext expected) v
    simp only [jwtForm, List.forall_mem_cons, List.not_mem_nil, false_implies, implies_true,
      and_true]
    refine ⟨?_, ?_, ?_, ?_, ?_, ?_⟩
    · exact fun a v ↦ (htext _ v).bind fun s ↦ .ok { a with algorithm := s }
    · exact fun a v ↦ (hoptional _ v).bind fun s ↦ .ok { a with key := s }
    · exact fun a v ↦ (hoptional _ v).bind fun s ↦ .ok { a with privateKeyPath := s }
    · exact fun a v ↦ (hoptional _ v).bind fun s ↦ .ok { a with publicKeyPath := s }
    · exact fun a v ↦ (hoptional _ v).bind fun s ↦ .ok { a with keyId := s }
    · exact fun a v ↦ (mirrors_readNumber lookup v).bind fun n ↦ .ok { a with leewaySeconds := n }

theorem expands_oidcForm : oidcForm.Expands lookup (OidcConfig.mapTexts (expand lookup)) := by
  have halgorithm : expand lookup "RS256" = "RS256" := expand_eq_self lookup (by decide)
  have hempty : expand lookup "" = "" := expand_eq_self lookup (by decide)
  refine ⟨?_, ?_⟩
  · simp [oidcForm, OidcConfig.mapTexts, halgorithm, hempty]
  · have htext := mirrors_readText lookup "a string"
    have hnumber := mirrors_readNumber lookup
    have hoptional (v : Json) := mirrors_readOptional lookup hnumber v
    rw [Option.map_id_fun] at hoptional
    simp only [oidcForm, List.forall_mem_cons, List.not_mem_nil, false_implies, implies_true,
      and_true]
    refine ⟨?_, ?_, ?_, ?_, ?_, ?_⟩
    · exact fun a v ↦ (htext v).bind fun s ↦ .ok { a with issuerUrl := s }
    · exact fun a v ↦ (htext v).bind fun s ↦ .ok { a with audience := s }
    · exact fun a v ↦ (htext v).bind fun s ↦ .ok { a with algorithm := s }
    · exact fun a v ↦ (hoptional v).bind fun n ↦ .ok { a with refreshIntervalSeconds := n }
    · exact fun a v ↦ (hoptional v).bind fun n ↦ .ok { a with httpTimeoutSeconds := n }
    · exact fun a v ↦ (hnumber v).bind fun n ↦ .ok { a with leewaySeconds := n }

theorem expands_preSharedKeysForm :
    preSharedKeysForm.Expands lookup (List.map (expand lookup)) := by
  refine ⟨rfl, ?_⟩
  simp only [preSharedKeysForm, List.forall_mem_singleton]
  exact fun _ v ↦ mirrors_readTexts lookup v

end

/-- What is read from an expanded document is what is read from the document, expanded. -/
theorem exists_isReadFrom {lookup : String → Option String} {v : Json} {c : Config}
    (h : c.IsReadFrom (expandJson lookup v)) :
    ∃ r : Config, r.IsReadFrom v ∧ r.mapTexts (expand lookup) = c := by
  cases c with
  | noop => exact ⟨noop, trivial, rfl⟩
  | jwt c =>
    obtain ⟨r, hr, rfl⟩ := (expands_jwtForm lookup).exists_of_ofDocument h
    exact ⟨jwt r, hr, rfl⟩
  | oidc c =>
    obtain ⟨r, hr, rfl⟩ := (expands_oidcForm lookup).exists_of_ofDocument h
    exact ⟨oidc r, hr, rfl⟩
  | preSharedKeys keys =>
    obtain ⟨r, hr, rfl⟩ := (expands_preSharedKeysForm lookup).exists_of_ofDocument h
    exact ⟨preSharedKeys r, hr, rfl⟩

end Config

end BearerAuth
