import BearerAuth.Config.Load
import BearerAuth.Proofs.Config.Expansion
import BearerAuth.Proofs.Json.RoundTrip

/-!
# Configurations are read back

A configuration is written as an object with the name of its backend and all fields, those that are
left out as `null`.  Reading undoes this (`ofText_toJson`): each field reads what was written for
it, the order of the members does not count because an object is put in order when it is read, and
texts in which no reference begins stay as they are in every environment.
-/

namespace BearerAuth

/-! ## Documents that are read back -/

namespace Json

/-- Whether a value in an object is read from its text as it was written. -/
def IsReread (v : Json) : Prop := v.Numeric ∧ Source.toJsonAt 126 v.written = some v

theorem isReread_string (s : String) : (string s).IsReread := ⟨trivial, rfl⟩

theorem isReread_stringOrNull (s : Option String) : (stringOrNull s).IsReread := by
  cases s <;> exact ⟨trivial, rfl⟩

theorem isReread_ofStrings (l : List String) : (ofStrings l).IsReread := by
  refine ⟨numericItems_iff.mpr fun v hv ↦ ?_, ?_⟩
  · obtain ⟨s, -, rfl⟩ := List.mem_map.mp hv
    exact trivial
  · rw [ofStrings, written, Source.toJsonAt, itemsToJson_strings, Option.map_some]

/-- A number of 64 bits is read as it was written. -/
theorem isReread_ofInt {n : Int} (hlow : -2 ^ 63 ≤ n) (hhigh : n < 2 ^ 64) :
    (ofInt n).IsReread := by
  refine ⟨Number.isNumeral_integer n, ?_⟩
  rw [ofInt, written, Number.reread_integer hlow hhigh, Source.toJsonAt, Option.map_some]

/-- An object is read as the dictionary of its members if their values are read as they were
written. -/
theorem ofText?_object {members : List (String × Json)} (h : ∀ p ∈ members, p.2.IsReread) :
    ofText? (object members).toText = some (ofDict (.ofList members)) := by
  have hnumeric : (object members).Numeric := numericMembers_iff.mpr fun p hp ↦ (h p hp).1
  have hmembers := membersToJson_written fun p hp ↦ (h p hp).2
  rw [ofText?, ofText?_toText hnumeric, Option.bind_some, Source.toJson?, Source.maxDepth, written,
    Source.toJsonAt, hmembers, Option.map_some]

end Json

namespace Config

/-! ## What is written for a field -/

theorem readText_string (expected s : String) : readText expected (.string s) = .ok s := rfl

/-- A value other than `null` is read as it would be if it had to be there. -/
theorem readOptional_of_ok {α : Type} {f : Json → Except ShapeFault α} {v : Json} {a : α}
    (hnull : v ≠ .null) (h : f v = .ok a) : readOptional f v = .ok (some a) := by
  cases v with
  | null => exact absurd rfl hnull
  | _ => simp only [readOptional, h, Except.map]

theorem readOptional_stringOrNull (expected : String) (s : Option String) :
    readOptional (readText expected) (.stringOrNull s) = .ok s := by
  cases s with
  | none => rfl
  | some s => exact readOptional_of_ok (fun h ↦ nomatch h) (readText_string expected s)

theorem readTexts_ofStrings (l : List String) : readTexts (.ofStrings l) = .ok l := by
  rw [Json.ofStrings, readTexts]
  induction l with
  | nil => rfl
  | cons s l ih =>
    rw [List.map_cons, List.mapM_cons, ih]
    rfl

theorem readNumber_numberJson (n : UInt64) : readNumber (numberJson n) = .ok n := by
  have hn : n.toNat < 2 ^ 64 := n.toNat_lt
  rw [numberJson, Json.ofInt, readNumber, if_pos ⟨by omega, by omega⟩, Int.toNat_natCast,
    UInt64.ofNat_toNat]

theorem readOptional_numberOrNull (n : Option UInt64) :
    readOptional readNumber (numberOrNull n) = .ok n := by
  cases n with
  | none => rfl
  | some n => exact readOptional_of_ok (fun h ↦ nomatch h) (readNumber_numberJson n)

theorem isReread_numberJson (n : UInt64) : (numberJson n).IsReread := by
  have hn : n.toNat < 2 ^ 64 := n.toNat_lt
  exact Json.isReread_ofInt (by omega) (by omega)

theorem isReread_numberOrNull (n : Option UInt64) : (numberOrNull n).IsReread := by
  cases n with
  | none => exact ⟨trivial, rfl⟩
  | some n => exact isReread_numberJson n

/-! ## Documents -/

-- The values of the fields are variables here.  With the numbers themselves in place the kernel
-- would count up to `2 ^ 64` to find out that they are in range.

/-- A configuration of signed tokens is read if its fields are. -/
theorem ofJson_jwt (c : JwtConfig) {algorithm key keyId leeway privatePath publicPath : Json}
    (halgorithm : readText "a string" algorithm = .ok c.algorithm)
    (hkey : readOptional (readText "a string") key = .ok c.key)
    (hkeyId : readOptional (readText "a string") keyId = .ok c.keyId)
    (hleeway : readNumber leeway = .ok c.leewaySeconds)
    (hprivate : readOptional (readText "path string") privatePath = .ok c.privateKeyPath)
    (hpublic : readOptional (readText "path string") publicPath = .ok c.publicKeyPath) :
    ofJson (.object [("algorithm", algorithm), ("key", key), ("key_id", keyId),
      ("leeway_secs", leeway), ("private_key_path", privatePath),
      ("public_key_path", publicPath), ("type", .string "jwt")]) = .ok (.jwt c) := by
  simp [ofJson, ofMembers, List.lookup_cons, readText_string, readKind, kinds, Form.ofMembers,
    Form.fill, jwtForm, halgorithm, hkey, hkeyId, hleeway, hprivate, hpublic, bind, Except.bind,
    pure, Except.pure]

/-- A configuration of an identity provider is read if its fields are. -/
theorem ofJson_oidc (c : OidcConfig) {algorithm audience timeout issuer leeway interval : Json}
    (halgorithm : readText "a string" algorithm = .ok c.algorithm)
    (haudience : readText "a string" audience = .ok c.audience)
    (htimeout : readOptional readNumber timeout = .ok c.httpTimeoutSeconds)
    (hissuer : readText "a string" issuer = .ok c.issuerUrl)
    (hleeway : readNumber leeway = .ok c.leewaySeconds)
    (hinterval : readOptional readNumber interval = .ok c.refreshIntervalSeconds) :
    ofJson (.object [("algorithm", algorithm), ("audience", audience),
      ("http_timeout_secs", timeout), ("issuer_url", issuer), ("leeway_secs", leeway),
      ("refresh_interval_secs", interval), ("type", .string "oidc")]) = .ok (.oidc c) := by
  simp [ofJson, ofMembers, List.lookup_cons, readText_string, readKind, kinds, Form.ofMembers,
    Form.fill, oidcForm, halgorithm, haudience, htimeout, hissuer, hleeway, hinterval, bind,
    Except.bind, pure, Except.pure]

/-- Pre-shared keys are read if the list of them is. -/
theorem ofJson_preSharedKeys (keys : List String) {list : Json}
    (hkeys : readTexts list = .ok keys) :
    ofJson (.object [("keys", list), ("type", .string "pre_shared_key")]) =
      .ok (.preSharedKeys keys) := by
  simp [ofJson, ofMembers, List.lookup_cons, readText_string, readKind, kinds, Form.ofMembers,
    Form.fill, preSharedKeysForm, hkeys, bind, Except.bind, pure, Except.pure]

/-- The document of a configuration is read as the configuration. -/
theorem ofJson_toJson (c : Config) : ofJson c.toJson = .ok c := by
  cases c with
  | noop =>
    simp [toJson, kind, ofJson, ofMembers, readText_string, readKind, kinds, bind, Except.bind,
      pure, Except.pure]
  | jwt c =>
    exact ofJson_jwt c (readText_string _ _) (readOptional_stringOrNull _ _)
      (readOptional_stringOrNull _ _) (readNumber_numberJson _) (readOptional_stringOrNull _ _)
      (readOptional_stringOrNull _ _)
  | oidc c =>
    exact ofJson_oidc c (readText_string _ _) (readText_string _ _) (readOptional_numberOrNull _)
      (readText_string _ _) (readNumber_numberJson _) (readOptional_numberOrNull _)
  | preSharedKeys keys => exact ofJson_preSharedKeys keys (readTexts_ofStrings keys)

/-! ## Texts -/

/-- The members of the document of a configuration: the name of its backend, then its fields in
their order. -/
def members (c : Config) : List (String × Json) :=
  ("type", .string c.kind) :: match c with
    | noop => []
    | jwt j => [("algorithm", .string j.algorithm), ("key", .stringOrNull j.key),
        ("private_key_path", .stringOrNull j.privateKeyPath),
        ("public_key_path", .stringOrNull j.publicKeyPath), ("key_id", .stringOrNull j.keyId),
        ("leeway_secs", numberJson j.leewaySeconds)]
    | oidc o => [("issuer_url", .string o.issuerUrl), ("audience", .string o.audience),
        ("algorithm", .string o.algorithm),
        ("refresh_interval_secs", numberOrNull o.refreshIntervalSeconds),
        ("http_timeout_secs", numberOrNull o.httpTimeoutSeconds),
        ("leeway_secs", numberJson o.leewaySeconds)]
    | preSharedKeys keys => [("keys", .ofStrings keys)]

/-- The texts in a configuration. -/
def texts : Config → List String
  | noop => []
  | jwt j => j.algorithm :: (j.key.toList ++ j.privateKeyPath.toList ++ j.publicKeyPath.toList ++
      j.keyId.toList)
  | oidc o => [o.issuerUrl, o.audience, o.algorithm]
  | preSharedKeys keys => keys

variable (c : Config)

/-- No two members of a configuration have the same name. -/
theorem nodup_members : (c.members.map Prod.fst).Nodup := by
  cases c <;> simp [members]

/-- The values in a configuration are read as they were written. -/
theorem isReread_members : ∀ p ∈ c.members, p.2.IsReread := by
  cases c <;> simp [members, Json.isReread_string, Json.isReread_stringOrNull,
    Json.isReread_ofStrings, isReread_numberJson, isReread_numberOrNull]

/-- The document of a configuration has these members, in the order of their names. -/
theorem toJson_eq : c.toJson = .ofDict (.ofList c.members) := by
  cases c <;> simp only [toJson, members, kind, Json.ofDict, Dict.ofList, Dict.insert,
    Dict.insertEntry, Dict.empty, List.foldl_cons, List.foldl_nil, String.reduceLT,
    String.reduceEq, ↓reduceIte]

theorem textsIn_stringOrNull (s : Option String) : textsIn (.stringOrNull s) = s.toList := by
  cases s <;> simp [Json.stringOrNull, textsIn]

theorem textsIn_numberOrNull (n : Option UInt64) : textsIn (numberOrNull n) = [] := by
  cases n <;> simp [numberOrNull, numberJson, Json.ofInt, textsIn]

theorem textsIn_ofStrings (l : List String) : textsIn (.ofStrings l) = l := by
  rw [Json.ofStrings, textsIn]
  induction l with
  | nil => rw [List.map_nil, textsInItems]
  | cons s l ih => rw [List.map_cons, textsInItems, ih, textsIn, List.singleton_append]

/-- The texts in the document of a configuration are its texts and the name of its backend. -/
theorem mem_textsIn_toJson {s : String} : s ∈ textsIn c.toJson ↔ s ∈ c.texts ∨ s = c.kind := by
  cases c with
  | noop => simp [toJson, textsIn, textsInMembers, texts]
  | jwt c =>
    simp only [toJson, numberJson, Json.ofInt, textsIn, textsInMembers, textsIn_stringOrNull, texts,
      List.mem_append, List.mem_cons, List.not_mem_nil]
    tauto
  | oidc c =>
    simp only [toJson, numberJson, Json.ofInt, textsIn, textsInMembers, textsIn_numberOrNull, texts,
      List.mem_append, List.mem_cons, List.not_mem_nil]
    tauto
  | preSharedKeys keys => simp [toJson, textsIn, textsInMembers, textsIn_ofStrings, texts]

/-- No reference begins in the name of a backend. -/
theorem not_infix_kind : ¬['$', '{'] <:+: c.kind.toList := by
  have hkinds : ∀ name ∈ kinds, '$' ∉ name.toList := by decide
  have hkind : c.kind ∈ kinds := by cases c <;> simp [kind, kinds]
  exact fun hbegins ↦ hkinds _ hkind (hbegins.subset List.mem_cons_self)

/-! ## Round trip -/

section

variable {c}

/-- In the document of a configuration nothing is replaced, if no reference begins in its texts. -/
theorem expandJson_toJson (lookup : String → Option String)
    (h : ∀ s ∈ c.texts, ¬['$', '{'] <:+: s.toList) : expandJson lookup c.toJson = c.toJson := by
  refine expandJson_eq_self fun s hs ↦ expand_eq_self lookup ?_
  rcases c.mem_textsIn_toJson.mp hs with hs | rfl
  · exact h s hs
  · exact c.not_infix_kind

/-- A configuration in whose texts no reference begins is read back in every environment, from the
text of its document and from that of any object with the same members, in whatever order they
stand. -/
theorem ofText_toJson (env : Environment) (h : ∀ s ∈ c.texts, ¬['$', '{'] <:+: s.toList) :
    ofText env c.toJson.toText = .ok c ∧
      ∀ l : List (String × Json), l.Perm c.members → ofText env (Json.object l).toText = .ok c := by
  have hread : ∀ l : List (String × Json), l.Perm c.members →
      ofText env (Json.object l).toText = .ok c := by
    intro l hperm
    have hvalues : ∀ p ∈ l, p.2.IsReread := fun p hp ↦
      c.isReread_members p (hperm.mem_iff.mp hp)
    have hdict : Json.ofDict (.ofList l) = c.toJson := by
      rw [toJson_eq, Dict.ofList_perm hperm.symm c.nodup_members]
    simp only [ofText, Json.ofText?_object hvalues, hdict, expandJson_toJson env.value? h,
      ofJson_toJson, Except.mapError]
  refine ⟨?_, hread⟩
  rw [toJson_eq]
  exact hread _ (Dict.entries_ofList_perm c.nodup_members)

end

/-- A configuration with the greatest number, a path that is not ASCII, and a secret that is hard to
write. -/
def cornered : Config :=
  .jwt {
    algorithm := "RS256"
    key := some "$\x7d\x7b\"\\\n\x00"
    publicKeyPath := some "ключ.pem"
    leewaySeconds := 18446744073709551615 }

/-- It is read back although every variable is set. -/
theorem ofText_toJson_cornered :
    (∀ s ∈ cornered.texts, ¬['$', '{'] <:+: s.toList) ∧
      ofText ⟨fun _ ↦ some "set", fun _ ↦ .error .notFound⟩ (Json.object cornered.members).toText =
        .ok cornered := by
  have h : ∀ s ∈ cornered.texts, ¬['$', '{'] <:+: s.toList := by
    simp [cornered, texts, List.infix_cons_iff]
  exact ⟨h, (ofText_toJson _ h).2 _ (.refl _)⟩

end Config

end BearerAuth
