import BearerAuth.Proofs.Json.RoundTrip
import BearerAuth.Token.Compact
import BearerAuth.Token.Header
import BearerAuth.Token.Payload

/-!
# Segments of issued tokens

A token is issued in three segments of base 64, in whose alphabet there is no dot, so the token is
taken apart where it was put together.  Its header is read back as the header that the key was
looked up for (`Header.ofSegment?_toSegment`), and its payload as the payload that was written
(`Payload.ofSegment_toSegment`), whatever the identifier of the key and the texts in the payload.
-/

namespace BearerAuth

/-! ## The alphabet -/

namespace Base64

/-- What is written in base 64 consists of the digits of its alphabet. -/
theorem exists_digit_of_mem_encode {t : Alphabet} {l : List UInt8} {c : Char}
    (h : c ∈ encode t l) : ∃ n < 64, c = t.digit n := by
  fun_induction encode t l with
  | case1 a b d rest n ih =>
    have ha := a.toNat_lt
    have hb := b.toNat_lt
    have hd := d.toNat_lt
    simp only [List.mem_cons] at h
    rcases h with rfl | rfl | rfl | rfl | h
    · exact ⟨_, by omega, rfl⟩
    · exact ⟨_, by omega, rfl⟩
    · exact ⟨_, by omega, rfl⟩
    · exact ⟨_, by omega, rfl⟩
    · exact ih h
  | case2 a b n =>
    have ha := a.toNat_lt
    have hb := b.toNat_lt
    simp only [List.mem_cons, List.not_mem_nil, or_false] at h
    rcases h with rfl | rfl | rfl <;> exact ⟨_, by omega, rfl⟩
  | case3 a n =>
    have ha := a.toNat_lt
    simp only [List.mem_cons, List.not_mem_nil, or_false] at h
    rcases h with rfl | rfl <;> exact ⟨_, by omega, rfl⟩
  | case4 => cases h

/-- There is no dot in base 64. -/
theorem dot_notMem_encode (t : Alphabet) (l : List UInt8) : '.' ∉ encode t l := by
  intro h
  obtain ⟨n, hn, heq⟩ := exists_digit_of_mem_encode h
  have hdot : t.value? '.' = none := by cases t <;> rfl
  rw [heq, t.value?_digit hn] at hdot
  cases hdot

end Base64

namespace Token

open Json (Source)

/-! ## Headers -/

namespace Header

variable (a : Algorithm) (keyId : Option String)

/-- The members of an issued header. -/
def issuedMembers : List (String × Source) :=
  ("typ", .string (some "JWT")) :: ("alg", .string (some a.name)) ::
    (keyId.map fun k ↦ ("kid", Source.string (some k))).toList

/-- The texts in an issued header, the algorithm apart. -/
def issuedTexts : List (String × String) := ("typ", "JWT") :: (keyId.map ("kid", ·)).toList

theorem written_toJson_new :
    (new a keyId).toJson.written =
      .object ((issuedMembers a keyId).map fun m ↦ (some m.1, m.2)) := by
  cases keyId <;> rfl

theorem toDict?_issued :
    (Source.object ((issuedMembers a keyId).map fun m ↦ (some m.1, m.2))).toDict?.isSome := by
  cases keyId <;> rfl

theorem named?_issuedMembers :
    Source.named? ((issuedMembers a keyId).map fun m ↦ (some m.1, m.2)) =
      some (issuedMembers a keyId) := by
  cases keyId <;> rfl

theorem otherTexts?_issuedMembers :
    otherTexts? (issuedMembers a keyId) = some (.ofList (issuedTexts keyId)) := by
  cases keyId <;>
    simp [otherTexts?, issuedMembers, issuedTexts, listNames, textNames, Source.textOrNull?]

/-- No member of an issued header is repeated. -/
theorem unique?_issuedMembers :
    knownNames.all fun name ↦ (Source.unique? (issuedMembers a keyId) name).isSome := by
  cases keyId <;> simp [knownNames, textNames, listNames, Source.unique?, issuedMembers]

theorem typ_issuedTexts : (Dict.ofList (issuedTexts keyId)).get? "typ" = some "JWT" := by
  cases keyId <;> simp [issuedTexts, Dict.ofList, Dict.get?_insert]

theorem keyId_issuedTexts : (Dict.ofList (issuedTexts keyId)).get? "kid" = keyId := by
  cases keyId <;> simp [issuedTexts, Dict.ofList, Dict.get?_insert]

theorem erase_issuedTexts :
    ((Dict.ofList (issuedTexts keyId)).erase "typ").erase "kid" = .empty := by
  refine Dict.ext_get? fun name ↦ ?_
  rw [Dict.get?_erase, Dict.get?_erase]
  cases keyId with
  | none => simp +contextual [issuedTexts, Dict.ofList, Dict.get?_insert]
  | some k => simp +contextual [issuedTexts, Dict.ofList, Dict.get?_insert]

/-- What is written for an issued header stands for that header. -/
theorem ofSource?_written : ofSource? (new a keyId).toJson.written = some (new a keyId) := by
  obtain ⟨d, hd⟩ := Option.isSome_iff_exists.mp (toDict?_issued a keyId)
  have halgorithm : (Source.required? (issuedMembers a keyId) "alg").bind Source.choice? =
      some a.name := by
    cases keyId <;> simp [Source.required?, Source.unique?, issuedMembers, Source.choice?]
  have habsent : ∀ name ∈ ["x5c", "crit", "jwk"],
      Source.unique? (issuedMembers a keyId) name = some none := by
    cases keyId <;> simp [Source.unique?, issuedMembers]
  rw [written_toJson_new, ofSource?, hd]
  simp only [Option.bind_eq_bind, Option.bind_some, named?_issuedMembers, halgorithm,
    Algorithm.ofName?_name, unique?_issuedMembers, Bool.not_true, Bool.false_eq_true, if_false,
    otherTexts?_issuedMembers, Source.optional?, habsent, typ_issuedTexts, keyId_issuedTexts,
    erase_issuedTexts, List.mem_cons, true_or, or_true]
  rfl

/-- The header of an issued token is read back as the header that it was issued with. -/
theorem ofSegment?_toSegment : ofSegment? (new a keyId).toSegment = some (new a keyId) := by
  have hnumeric : (new a keyId).toJson.Numeric := by
    cases keyId <;> simp [toJson, new, Json.Numeric, Json.NumericMembers]
  simp [ofSegment?, toSegment, Base64.decode?_encode, Json.ofText?_toText hnumeric,
    ofSource?_written]

end Header

/-! ## Payloads -/

namespace Payload

variable {d : Dict Json}

/-- A written payload has one member for each name that the payload has. -/
theorem unique?_written (name : String) :
    Source.unique? (d.entries.map fun p ↦ (p.1, p.2.written)) name =
      some ((d.get? name).map Json.written) := by
  have hfilter : (d.entries.map fun p ↦ (p.1, p.2.written)).filter (·.1 = name) =
      (((d.get? name).map (name, ·)).toList).map fun p ↦ (p.1, p.2.written) := by
    rw [List.filter_map, Dict.get?, ← Dict.filter_key_eq d.sorted]
    rfl
  rw [Source.unique?, hfilter]
  cases d.get? name <;> rfl

/-- Members of a written payload stand once; so the payload is plain if its subject is neither list
nor object, and its dates are no lists and objects but empty ones. -/
theorem isPlain_written
    (hsubject : ∀ v, d.get? "sub" = some v → isNested v.written = false)
    (hdates : ∀ name ∈ ["exp", "nbf"], ∀ v, d.get? name = some v → isFilled v.written = false) :
    isPlain (Json.writtenMembers d.entries) = true := by
  have hnamed : Source.named? (Json.writtenMembers d.entries) =
      some (d.entries.map fun p ↦ (p.1, p.2.written)) := by
    rw [Json.writtenMembers_eq_map, Source.named?]
    induction d.entries with
    | nil => rfl
    | cons p rest ih => simp [ih]
  rw [isPlain, hnamed]
  simp only [unique?_written, Option.isSome_some, List.all_map, Bool.and_eq_true, List.all_eq_true,
    Function.comp_apply, implies_true, true_and]
  rintro ⟨name, v⟩ hv
  have hget : d.get? name = some v := Dict.mem_entries_iff.mp hv
  constructor
  · by_cases hname : name = "sub"
    · subst hname
      simp [hsubject v hget]
    · simp [hname]
  · by_cases hname : name ∈ ["exp", "nbf"]
    · simp [hdates name hname v hget]
    · simp only [List.mem_cons, List.not_mem_nil, or_false, not_or] at hname
      simp [hname]

/-- A payload is read back from its segment if each member is read as the value that was written. -/
theorem ofSegment_toSegment (hnumeric : (Json.ofDict d).Numeric)
    (hread : ∀ p ∈ d.entries, Source.toJsonAt 126 p.2.written = some p.2)
    (hplain : isPlain (Json.writtenMembers d.entries) = true) :
    ofSegment (toSegment d) = .ok d := by
  have hsource : ofSource? (Json.ofDict d).written = some d := by
    have hdict := Json.toDict?_written hread
    rw [Json.ofDict, Json.written] at hdict ⊢
    rw [ofSource?, if_pos hplain, hdict]
  simp [ofSegment, toSegment, Base64.decode?_encode, Json.ofText?_toText hnumeric, hsource]

end Payload

end Token

end BearerAuth
