import BearerAuth.Proofs.Oidc.KeySet

/-!
# Looking keys up

A document lists key records, and some of them are not usable: those meant for encryption, and those
that no key can be made of.  What is found under an identifier is said here of the records of the
document, and not of the keys that are held (`RemoteKeySet.Answers`).  It is the key of the first
usable record with that identifier; without an identifier, it is the key of the only usable record,
if there is only one.

So unusable records do not matter, wherever they stand (`Padded.usableKeys_eq`): they are counted
neither among the records with an identifier nor among those that make a key the only one.
-/

namespace BearerAuth.Oidc

/-! ## Usable records -/

namespace KeyRecord

variable {r : KeyRecord}

/-- Whether a record is usable. -/
structure Usable (r : KeyRecord) : Prop where
  /-- It is not meant for encryption. -/
  signs : r.use ≠ some "enc"
  /-- A key can be made of it. -/
  converts : ∃ key, r.key? = some key

/-- The key of a usable record is held with the identifier of the record. -/
theorem usable?_eq_some_iff {entry : Option String × VerifyingKey} :
    r.usable? = some entry ↔ r.Usable ∧ r.keyId = entry.1 ∧ r.key? = some entry.2 := by
  obtain ⟨keyId, key⟩ := entry
  rw [usable?]
  constructor
  · intro h
    split at h
    · cases h
    · next huse =>
      obtain ⟨key', hkey, h⟩ := Option.map_eq_some_iff.mp h
      cases h
      exact ⟨⟨huse, key, hkey⟩, rfl, hkey⟩
  · rintro ⟨husable, rfl, hkey⟩
    rw [if_neg husable.signs, hkey, Option.map_some]

/-- No key is held of a record that is not usable. -/
theorem usable?_eq_none_iff : r.usable? = none ↔ ¬r.Usable := by
  rw [Option.eq_none_iff_forall_ne_some]
  constructor
  · intro h husable
    obtain ⟨key, hkey⟩ := husable.converts
    exact h (r.keyId, key) (usable?_eq_some_iff.mpr ⟨husable, rfl, hkey⟩)
  · intro h entry hentry
    exact h (usable?_eq_some_iff.mp hentry).1

instance (r : KeyRecord) : Decidable r.Usable :=
  match h : r.usable? with
  | some _ => isTrue (usable?_eq_some_iff.mp h).1
  | none => isFalse (usable?_eq_none_iff.mp h)

/-- The key that is held of a usable record is the key that is made of it. -/
theorem map_usable? (h : r.Usable) : r.usable?.map Prod.snd = r.key? := by
  rw [usable?, if_neg h.signs, Option.map_map]
  exact Option.map_id'

/-- A record is usable under an identifier if it is usable and has the identifier. -/
theorem any_usable?_iff {keyId : String} :
    r.usable?.any (·.1 = some keyId) = true ↔ r.Usable ∧ r.keyId = some keyId := by
  rw [Option.any_eq_true]
  simp only [decide_eq_true_eq]
  constructor
  · rintro ⟨entry, hentry, hkeyId⟩
    obtain ⟨husable, hid, -⟩ := usable?_eq_some_iff.mp hentry
    exact ⟨husable, hid.trans hkeyId⟩
  · rintro ⟨husable, hkeyId⟩
    obtain ⟨key, hkey⟩ := husable.converts
    exact ⟨(r.keyId, key), usable?_eq_some_iff.mpr ⟨husable, rfl, hkey⟩, hkeyId⟩

end KeyRecord

/-! ## Records in their order -/

section

variable {α : Type} {p : α → Prop} {l : List α} {a : α}

/-- Whether an item is the first of a list to have a property. -/
def IsFirst (p : α → Prop) (l : List α) (a : α) : Prop :=
  ∃ before after, l = before ++ a :: after ∧ p a ∧ ∀ b ∈ before, ¬p b

/-- Whether an item is the only one of a list to have a property. -/
def IsOnly (p : α → Prop) (l : List α) (a : α) : Prop :=
  ∃ before after, l = before ++ a :: after ∧ p a ∧ ∀ b ∈ before ++ after, ¬p b

/-- The first item with a property is an item that has it. -/
theorem IsFirst.mem (h : IsFirst p l a) : a ∈ l ∧ p a := by
  obtain ⟨before, after, rfl, ha, -⟩ := h
  exact ⟨by simp, ha⟩

/-- The only item with a property is an item that has it. -/
theorem IsOnly.mem (h : IsOnly p l a) : a ∈ l ∧ p a := by
  obtain ⟨before, after, rfl, ha, -⟩ := h
  exact ⟨by simp, ha⟩

end

/-! ## What is found -/

section

variable {records : List KeyRecord} {keyId : String} {key : VerifyingKey}

/-- The first record with a usable key under an identifier. -/
theorem find?_any_usable?_iff {r : KeyRecord} :
    records.find? (fun r ↦ r.usable?.any (·.1 = some keyId)) = some r ↔
      IsFirst (fun r ↦ r.Usable ∧ r.keyId = some keyId) records r := by
  simp only [List.find?_eq_some_iff_append, Bool.not_eq_true', ← Bool.not_eq_true,
    KeyRecord.any_usable?_iff]
  constructor
  · rintro ⟨hr, before, after, heq, hbefore⟩
    exact ⟨before, after, heq, hr, hbefore⟩
  · rintro ⟨before, after, heq, hr, hbefore⟩
    exact ⟨hr, before, after, heq, hbefore⟩

/-- Under an identifier the key of the first usable record is found that has the identifier. -/
theorem findKey?_some_eq_some_iff :
    findKey? (usableKeys records) (some keyId) = some key ↔
      ∃ r, IsFirst (fun r ↦ r.Usable ∧ r.keyId = some keyId) records r ∧ r.key? = some key := by
  rw [findKey?, usableKeys, List.find?_filterMap, Option.map_bind, Option.bind_eq_some_iff]
  refine exists_congr fun r ↦ ?_
  rw [find?_any_usable?_iff]
  refine and_congr_right fun hfirst ↦ ?_
  rw [Function.comp_apply, KeyRecord.map_usable? hfirst.mem.2.1]

/-- The keys that are held are those of the usable records. -/
theorem mem_usableKeys_iff {entry : Option String × VerifyingKey} :
    entry ∈ usableKeys records ↔
      ∃ r ∈ records, r.Usable ∧ r.keyId = entry.1 ∧ r.key? = some entry.2 := by
  simp only [usableKeys, List.mem_filterMap, KeyRecord.usable?_eq_some_iff]

/-- Nothing is found under an identifier just if no usable record has it. -/
theorem findKey?_some_eq_none_iff :
    findKey? (usableKeys records) (some keyId) = none ↔
      ∀ r ∈ records, ¬(r.Usable ∧ r.keyId = some keyId) := by
  simp only [findKey?, Option.map_eq_none_iff, List.find?_eq_none, decide_eq_true_eq]
  constructor
  · rintro h r hr ⟨husable, hkeyId⟩
    obtain ⟨key, hkey⟩ := husable.converts
    exact h (r.keyId, key) (mem_usableKeys_iff.mpr ⟨r, hr, husable, rfl, hkey⟩) hkeyId
  · intro h entry hentry hkeyId
    obtain ⟨r, hr, husable, hid, -⟩ := mem_usableKeys_iff.mp hentry
    exact h r hr ⟨husable, hid.trans hkeyId⟩

/-- Without an identifier only a lone key is found. -/
theorem findKey?_none_eq_some_iff {keys : Keys} :
    findKey? keys none = some key ↔ ∃ keyId, keys = [(keyId, key)] := by
  match keys with
  | [] => simp [findKey?]
  | [(keyId, key')] => simp [findKey?]
  | _ :: _ :: _ => simp [findKey?]

/-- There are no keys just if no record is usable. -/
theorem usableKeys_eq_nil_iff : usableKeys records = [] ↔ ∀ r ∈ records, ¬r.Usable := by
  simp only [usableKeys, List.filterMap_eq_nil_iff, KeyRecord.usable?_eq_none_iff]

/-- There is one key just if one record is usable. -/
theorem usableKeys_eq_singleton_iff {entry : Option String × VerifyingKey} :
    usableKeys records = [entry] ↔
      ∃ r, IsOnly KeyRecord.Usable records r ∧ r.usable? = some entry := by
  rw [usableKeys, List.filterMap_eq_cons_iff]
  simp only [KeyRecord.usable?_eq_none_iff, List.filterMap_eq_nil_iff]
  constructor
  · rintro ⟨before, r, after, rfl, hbefore, hr, hafter⟩
    refine ⟨r, ⟨before, after, rfl, (KeyRecord.usable?_eq_some_iff.mp hr).1, ?_⟩, hr⟩
    exact List.forall_mem_append.mpr ⟨hbefore, hafter⟩
  · rintro ⟨r, ⟨before, after, rfl, -, hothers⟩, hr⟩
    obtain ⟨hbefore, hafter⟩ := List.forall_mem_append.mp hothers
    exact ⟨before, r, after, rfl, hbefore, hr, hafter⟩

/-- Without an identifier the key of the only usable record is found, whatever its identifier. -/
theorem findKey?_none_usableKeys_iff :
    findKey? (usableKeys records) none = some key ↔
      ∃ r, IsOnly KeyRecord.Usable records r ∧ r.key? = some key := by
  simp only [findKey?_none_eq_some_iff, usableKeys_eq_singleton_iff]
  rw [exists_comm]
  refine exists_congr fun r ↦ ?_
  rw [exists_and_left]
  refine and_congr_right fun honly ↦ ?_
  simp [KeyRecord.usable?_eq_some_iff, honly.mem.2]

/-- Whatever is found is the key of a usable record. -/
theorem exists_mem_of_findKey? {sought : Option String}
    (h : findKey? (usableKeys records) sought = some key) :
    ∃ r ∈ records, r.Usable ∧ r.key? = some key := by
  cases sought with
  | some keyId =>
    obtain ⟨r, hfirst, hkey⟩ := findKey?_some_eq_some_iff.mp h
    exact ⟨r, hfirst.mem.1, hfirst.mem.2.1, hkey⟩
  | none =>
    obtain ⟨r, honly, hkey⟩ := findKey?_none_usableKeys_iff.mp h
    exact ⟨r, honly.mem.1, honly.mem.2, hkey⟩

/-- No keys are loaded just if no record is usable, and there is no other fault. -/
theorem loadRecords_eq_error_iff {fault : KeySetFault} :
    loadRecords records = .error fault ↔ fault = .noKeys ∧ ∀ r ∈ records, ¬r.Usable := by
  rw [← usableKeys_eq_nil_iff, loadRecords, usableKeys]
  cases records.filterMap KeyRecord.usable? <;> simp [eq_comm]

/-- A document with a usable record is loaded. -/
theorem exists_loadRecords_eq_ok (h : ∃ r ∈ records, r.Usable) :
    ∃ keys, loadRecords records = .ok keys := by
  obtain ⟨r, hr, husable⟩ := h
  refine ⟨usableKeys records, loadRecords_eq_ok_iff.mpr ⟨rfl, fun hnil ↦ ?_⟩⟩
  exact usableKeys_eq_nil_iff.mp hnil r hr husable

end

/-! ## Records that do not matter -/

/-- The same records with more records among them, all of which are not usable. -/
inductive Padded : List KeyRecord → List KeyRecord → Prop
  /-- Nothing is nothing. -/
  | nil : Padded [] []
  /-- A record stays where it is. -/
  | keep (r : KeyRecord) {records padded : List KeyRecord} : Padded records padded →
    Padded (r :: records) (r :: padded)
  /-- One more record, which is not usable. -/
  | insert {r : KeyRecord} {records padded : List KeyRecord} : ¬r.Usable →
    Padded records padded → Padded records (r :: padded)

namespace Padded

variable {records padded : List KeyRecord}

/-- No key comes or goes with records that are not usable, and none changes its place. -/
theorem usableKeys_eq (h : Padded records padded) : usableKeys padded = usableKeys records := by
  induction h with
  | nil => rfl
  | keep r _ ih => rw [usableKeys, List.filterMap_cons, ← usableKeys, ih]; rfl
  | insert hr _ ih =>
    rw [usableKeys, List.filterMap_cons_none (KeyRecord.usable?_eq_none_iff.mpr hr), ← usableKeys,
      ih]

/-- Loading does not depend on records that are not usable. -/
theorem loadRecords_eq (h : Padded records padded) :
    loadRecords padded = loadRecords records := by
  rw [loadRecords, ← usableKeys, h.usableKeys_eq]
  rfl

end Padded

/-! ## A document and its keys -/

/-- What is found in a set of keys, said of the records of a document. -/
structure RemoteKeySet.Answers (s : RemoteKeySet) (records : List KeyRecord) : Prop where
  /-- Under an identifier, the key of the first usable record that has it. -/
  named : ∀ keyId key, s.key? (some keyId) = some key ↔
    ∃ r, IsFirst (fun r ↦ r.Usable ∧ r.keyId = some keyId) records r ∧ r.key? = some key
  /-- Under an identifier that no usable record has, nothing. -/
  absent : ∀ keyId, s.key? (some keyId) = none ↔
    ∀ r ∈ records, ¬(r.Usable ∧ r.keyId = some keyId)
  /-- Without an identifier, the key of the only usable record. -/
  lone : ∀ key, s.key? none = some key ↔
    ∃ r, IsOnly KeyRecord.Usable records r ∧ r.key? = some key
  /-- No key that is meant for encryption. -/
  genuine : ∀ sought key, s.key? sought = some key →
    ∃ r ∈ records, r.use ≠ some "enc" ∧ r.key? = some key

/-- The keys of a document answer for its records. -/
theorem RemoteKeySet.answers_of_loadRecords {s : RemoteKeySet} {records : List KeyRecord}
    (h : loadRecords records = .ok s.keys) : s.Answers records := by
  have hfind (sought : Option String) :
      s.key? sought = findKey? (usableKeys records) sought := by
    rw [RemoteKeySet.key?, (loadRecords_eq_ok_iff.mp h).1]
  constructor <;> simp only [hfind]
  case named => exact fun _ _ ↦ findKey?_some_eq_some_iff
  case absent => exact fun _ ↦ findKey?_some_eq_none_iff
  case lone => exact fun _ ↦ findKey?_none_usableKeys_iff
  case genuine =>
    intro sought key hkey
    obtain ⟨r, hr, husable, hr'⟩ := exists_mem_of_findKey? hkey
    exact ⟨r, hr, husable.signs, hr'⟩

/-- The records of a document decide what is loaded and what is found.  Loading fails just if no
record is usable, and in one way; otherwise the usable records say what is found, in their order;
and records that are not usable make no difference, wherever they are put in or taken out. -/
theorem loadRecords_decided (records : List KeyRecord) :
    (∀ fault, loadRecords records = .error fault ↔
      fault = .noKeys ∧ ∀ r ∈ records, ¬r.Usable) ∧
    ((∃ r ∈ records, r.Usable) → ∃ keys, loadRecords records = .ok keys) ∧
    (∀ s : RemoteKeySet, loadRecords records = .ok s.keys → s.Answers records) ∧
    ∀ padded, Padded records padded → loadRecords padded = loadRecords records :=
  ⟨fun _ ↦ loadRecords_eq_error_iff, exists_loadRecords_eq_ok,
    fun _ ↦ RemoteKeySet.answers_of_loadRecords, fun _ ↦ Padded.loadRecords_eq⟩

/-- A document of three keys with one identifier: one for encryption, one without a modulus, and one
that is usable. -/
def shadowed : List KeyRecord :=
  [{ Session.bareKey "a" with use := some "enc" }, { kind := "RSA", keyId := some "a" },
    Session.bareKey "a"]

/-- The usable key is found under the identifier and without one, as if it were alone. -/
theorem loadRecords_decided_shadowed :
    ∃ s : RemoteKeySet, loadRecords shadowed = .ok s.keys ∧ s.key? (some "a") = some (.ec [4]) ∧
      s.key? none = some (.ec [4]) ∧ loadRecords [Session.bareKey "a"] = .ok s.keys := by
  obtain ⟨-, hloads, hanswers, -⟩ := loadRecords_decided shadowed
  obtain ⟨keys, hkeys⟩ := hloads ⟨Session.bareKey "a", by decide, by decide⟩
  have h := hanswers { uri := "", keys } hkeys
  have hsplit : shadowed = shadowed.take 2 ++ Session.bareKey "a" :: [] := rfl
  have hpadded : Padded [Session.bareKey "a"] shadowed :=
    .insert (by decide) (.insert (by decide) (.keep _ .nil))
  refine ⟨{ uri := "", keys }, hkeys, ?_, ?_, ?_⟩
  · exact (h.named _ _).mpr ⟨_, ⟨_, _, hsplit, by decide, by decide⟩, by decide⟩
  · exact (h.lone _).mpr ⟨_, ⟨_, _, hsplit, by decide, by decide⟩, by decide⟩
  · rw [← (loadRecords_decided _).2.2.2 _ hpadded, hkeys]

end BearerAuth.Oidc
