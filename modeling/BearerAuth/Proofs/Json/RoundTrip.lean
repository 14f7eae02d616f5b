import BearerAuth.Proofs.Dict
import BearerAuth.Proofs.Json.Numeral
import BearerAuth.Proofs.Json.Quote

/-!
# Reading inverts writing

The compact text of a JSON value is read as what was written, `Json.written`: the same value, its
members in the same order, each number as the number its text is read as.  The reader takes one step
of fuel for each value and each item, so its fuel is measured by the length of the text
(`readValue_print`), and the text as a whole has fuel enough (`ofText?_toText`).

A payload is the case that tokens need: if each of its members is read as the value that was
written, the text stands for the payload (`toDict?_written`).
-/

namespace BearerAuth.Json

/-! ## What was written -/

mutual

/-- The text of a value as it is read. -/
def written : Json → Source
  | .null => .null
  | .bool b => .bool b
  | .number n => .number n.reread
  | .string s => .string (some s)
  | .array items => .array (writtenItems items)
  | .object members => .object (writtenMembers members)

/-- The items of a list as they are read. -/
def writtenItems : List Json → List Source
  | [] => []
  | v :: rest => v.written :: writtenItems rest

/-- The members of an object as they are read. -/
def writtenMembers : List (String × Json) → List (Option String × Source)
  | [] => []
  | (name, v) :: rest => (some name, v.written) :: writtenMembers rest

end

mutual

/-- Whether the text of each number in a value is a numeral. -/
def Numeric : Json → Prop
  | .number n => n.IsNumeral
  | .array items => NumericItems items
  | .object members => NumericMembers members
  | .null | .bool _ | .string _ => True

/-- Whether the text of each number in some items is a numeral. -/
def NumericItems : List Json → Prop
  | [] => True
  | v :: rest => v.Numeric ∧ NumericItems rest

/-- Whether the text of each number in some members is a numeral. -/
def NumericMembers : List (String × Json) → Prop
  | [] => True
  | (_, v) :: rest => v.Numeric ∧ NumericMembers rest

end

/-! ## Single characters -/

theorem skipSpace_cons {c : Char} (h : isSpace c = false) (cs : List Char) :
    skipSpace (c :: cs) = c :: cs := by
  simp [skipSpace, h]

/-- A numeral begins with a minus sign or a digit. -/
theorem head_of_lex {cs : List Char} {p : Numeral × List Char} (h : Numeral.lex cs = some p) :
    ∃ c rest, cs = c :: rest ∧ (c = '-' ∨ '0' ≤ c ∧ c ≤ '9') := by
  cases cs with
  | nil => simp [Numeral.lex, Numeral.lexUnsigned, Numeral.digits] at h
  | cons c rest =>
    refine ⟨c, rest, rfl, ?_⟩
    by_cases hminus : c = '-'
    · exact .inl hminus
    · refine .inr (Decidable.byContradiction fun hdigit ↦ ?_)
      rw [Numeral.lex] at h
      · simp [Numeral.lexUnsigned, Numeral.digits, Numeral.digit?, hdigit] at h
      · rintro rest ⟨⟩
        exact hminus rfl

/-- A text that is read as a numeral is read as a number. -/
theorem readValue_of_lex {k : Coding} {cs rest : List Char} {m : Numeral}
    (h : Numeral.lex cs = some (m, rest)) (fuel : Nat) :
    readValue k (fuel + 1) cs = some (.number m.value, rest) := by
  obtain ⟨c, tail, rfl, hc⟩ := head_of_lex h
  have hne : isSpace c = false ∧ c ≠ '{' ∧ c ≠ '[' ∧ c ≠ '"' ∧ c ≠ 'n' ∧ c ≠ 't' ∧ c ≠ 'f' := by
    rcases hc with rfl | ⟨hlow, hhigh⟩
    · decide
    · refine ⟨?_, ?_, ?_, ?_, ?_, ?_, ?_⟩
      · simp only [isSpace, Bool.or_eq_false_iff, decide_eq_false_iff_not]
        refine ⟨⟨⟨?_, ?_⟩, ?_⟩, ?_⟩ <;> rintro rfl <;> exact absurd hlow (by decide)
      all_goals rintro rfl
      all_goals first | exact absurd hlow (by decide) | exact absurd hhigh (by decide)
  rw [readValue, skipSpace_cons hne.1]
  split
  all_goals simp_all

/-- The items after the first are no part of a numeral. -/
theorem ends_printItems (items : List Json) (rest : List Char) :
    Numeral.Ends (printItems items ++ rest) := by
  cases items <;> simp [printItems, Numeral.Ends, Numeral.digit?]

/-- The members after the first are no part of a numeral. -/
theorem ends_printMembers (members : List (String × Json)) (rest : List Char) :
    Numeral.Ends (printMembers members ++ rest) := by
  rcases members with - | ⟨⟨name, v⟩, members⟩ <;>
    simp [printMembers, Numeral.Ends, Numeral.digit?]

/-- The text of a value begins with a character that is neither space nor closes a list. -/
theorem print_eq_cons {v : Json} (h : v.Numeric) :
    ∃ c cs, v.print = c :: cs ∧ isSpace c = false ∧ c ≠ ']' := by
  match v with
  | .null | .bool true | .bool false | .string _ | .array [] | .array (_ :: _) | .object []
  | .object ((_, _) :: _) => exact ⟨_, _, rfl, by decide, by decide⟩
  | .number n =>
    obtain ⟨m, hm⟩ := h
    obtain ⟨c, cs, hcs, hc⟩ := head_of_lex (by simpa using hm [] trivial)
    refine ⟨c, cs, hcs, ?_⟩
    rcases hc with rfl | ⟨hlow, hhigh⟩
    · decide
    · exact ⟨(Bool.eq_false_iff.mpr fun hspace ↦ by
        simp only [isSpace, Bool.or_eq_true, decide_eq_true_eq] at hspace
        rcases hspace with ((rfl | rfl) | rfl) | rfl <;> exact absurd hlow (by decide)),
        by rintro rfl; exact absurd hhigh (by decide)⟩

/-! ## Values -/

mutual

/-- The text of a value is read as what was written, up to its end. -/
theorem readValue_print : ∀ (v : Json), v.Numeric → ∀ (fuel : Nat), 2 * v.print.length < fuel →
    ∀ (rest : List Char), Numeral.Ends rest →
      readValue .text fuel (v.print ++ rest) = some (v.written, rest)
  | .null, _, fuel + 1, _, rest, _ => rfl
  | .bool true, _, fuel + 1, _, rest, _ => rfl
  | .bool false, _, fuel + 1, _, rest, _ => rfl
  | .number n, h, fuel + 1, _, rest, hrest => by
    obtain ⟨m, hvalue, hm⟩ := Number.IsNumeral.lex_eq h
    rw [print, readValue_of_lex (hm rest hrest), hvalue, written]
  | .string s, _, fuel + 1, _, rest, _ => by
    have hread := lexString_quote s rest
    rw [print, quote, List.cons_append, List.append_assoc, readValue,
      skipSpace_cons (by decide)]
    simp [hread, written]
  | .array [], _, fuel + 1, _, rest, _ => rfl
  | .array (v :: items), h, fuel + 1, hfuel, rest, _ => by
    have hread := readItems_print (v :: items) h fuel _ rfl
      (by simp only [print, List.length_cons] at hfuel; omega) rest
    obtain ⟨c, cs, hcs, hspace, hclose⟩ := print_eq_cons h.1
    rw [print, List.cons_append, readValue, skipSpace_cons (by decide)]
    rw [hcs, List.cons_append, List.cons_append] at hread ⊢
    simp only [skipSpace_cons hspace]
    split
    · next hc => exact absurd (List.cons.inj hc).1 hclose
    · rw [hread, Option.map_some, written]
  | .object [], _, fuel + 1, _, rest, _ => rfl
  | .object ((name, v) :: members), h, fuel + 1, hfuel, rest, _ => by
    have hread := readMembers_print ((name, v) :: members) h fuel _ rfl
      (by simp only [print, List.length_cons] at hfuel; omega) rest
    rw [print, List.cons_append, readValue, skipSpace_cons (by decide)]
    rw [quote, List.cons_append, List.cons_append] at hread ⊢
    simp only [skipSpace_cons (show isSpace '"' = false by decide)]
    split
    · next hc => exact absurd (List.cons.inj hc).1 (by decide)
    · rw [hread, Option.map_some, written]

/-- The items of a list are read up to the end of the list. -/
theorem readItems_print : ∀ (items : List Json), NumericItems items → ∀ (fuel : Nat)
    (cs : List Char), printItems items = ',' :: cs → 2 * cs.length + 1 < fuel →
    ∀ (rest : List Char), readItems .text fuel (cs ++ rest) = some (writtenItems items, rest)
  | [], _, _, _, hcs, _, _ => by simp [printItems] at hcs
  | v :: items, h, fuel + 1, cs, hcs, hfuel, rest => by
    obtain rfl : v.print ++ printItems items = cs := (List.cons.inj hcs).2
    rw [List.length_append] at hfuel
    have hread := readValue_print v h.1 fuel (by omega) _ (ends_printItems items rest)
    rw [List.append_assoc, readItems, hread]
    match items with
    | [] => rfl
    | w :: items =>
      have hitems := readItems_print (w :: items) h.2 fuel _ rfl
        (by simp only [printItems, List.length_cons] at hfuel; omega) rest
      simp only [printItems, List.cons_append, skipSpace_cons (show isSpace ',' = false by decide),
        Option.bind_eq_bind, Option.bind_some, hitems]
      rfl

/-- The members of an object are read up to the end of the object. -/
theorem readMembers_print : ∀ (members : List (String × Json)), NumericMembers members →
    ∀ (fuel : Nat) (cs : List Char), printMembers members = ',' :: cs → 2 * cs.length + 1 < fuel →
    ∀ (rest : List Char), readMembers .text fuel (cs ++ rest) = some (writtenMembers members, rest)
  | [], _, _, _, hcs, _, _ => by simp [printMembers] at hcs
  | (name, v) :: members, h, fuel + 1, cs, hcs, hfuel, rest => by
    obtain rfl : quote name ++ ':' :: (v.print ++ printMembers members) = cs :=
      (List.cons.inj hcs).2
    rw [List.length_append, List.length_cons, List.length_append] at hfuel
    have hname := lexString_quote name (':' :: (v.print ++ (printMembers members ++ rest)))
    have hread := readValue_print v h.1 fuel (by omega) _ (ends_printMembers members rest)
    simp only [quote, List.cons_append, List.append_assoc, List.nil_append, readMembers,
      skipSpace_cons (show isSpace '"' = false by decide),
      skipSpace_cons (show isSpace ':' = false by decide), Option.bind_eq_bind, hname, hread,
      Option.bind_some]
    match members with
    | [] => rfl
    | (name', w) :: members =>
      have hmembers := readMembers_print ((name', w) :: members) h.2 fuel _ rfl
        (by simp only [printMembers, List.length_cons] at hfuel; omega) rest
      simp only [printMembers, List.cons_append,
        skipSpace_cons (show isSpace ',' = false by decide), Option.bind_some, hmembers]
      rfl

end

/-- The text of a value is read as what was written. -/
theorem ofText?_toText {v : Json} (h : v.Numeric) : Source.ofText? v.toText = some v.written := by
  have hread := readValue_print v h (2 * v.print.length + 2) (by omega) [] trivial
  rw [List.append_nil] at hread
  rw [Source.ofText?, readWhole, toText, String.toList_ofList, readFront, hread]
  rfl

/-! ## What was written stands for the value -/

theorem writtenMembers_eq_map (members : List (String × Json)) :
    writtenMembers members = members.map fun p ↦ (some p.1, p.2.written) := by
  induction members with
  | nil => rfl
  | cons p rest ih => rw [writtenMembers, ih, List.map_cons]

theorem numericItems_iff {items : List Json} : NumericItems items ↔ ∀ v ∈ items, v.Numeric := by
  induction items with
  | nil => simp [NumericItems]
  | cons v rest ih => simp [NumericItems, ih]

theorem numericMembers_iff {members : List (String × Json)} :
    NumericMembers members ↔ ∀ p ∈ members, p.2.Numeric := by
  induction members with
  | nil => simp [NumericMembers]
  | cons p rest ih => simp [NumericMembers, ih]

/-- Texts are read as they were written. -/
theorem itemsToJson_strings (depth : Nat) (l : List String) :
    Source.itemsToJson depth (writtenItems (l.map .string)) = some (l.map .string) := by
  induction l with
  | nil => rfl
  | cons s rest ih => simp [writtenItems, Source.itemsToJson, written, Source.toJsonAt, ih]

/-- Members are read as they were written if their values are. -/
theorem membersToJson_written {depth : Nat} {members : List (String × Json)}
    (h : ∀ p ∈ members, Source.toJsonAt depth p.2.written = some p.2) :
    Source.membersToJson depth (writtenMembers members) = some members := by
  induction members with
  | nil => rfl
  | cons p rest ih =>
    obtain ⟨hv, hrest⟩ := List.forall_mem_cons.mp h
    simp [writtenMembers, Source.membersToJson, hv, ih hrest]

/-- Members are read under their names, each as what its value is read as. -/
theorem lookup_membersToJson {depth : Nat} {members l : List (String × Json)}
    (h : Source.membersToJson depth (writtenMembers members) = some l) :
    l.map Prod.fst = members.map Prod.fst ∧ ∀ name,
      l.lookup name = (members.lookup name).bind fun v ↦ Source.toJsonAt depth v.written := by
  induction members generalizing l with
  | nil => cases h; exact ⟨rfl, fun _ ↦ rfl⟩
  | cons p rest ih =>
    obtain ⟨key, v⟩ := p
    simp only [writtenMembers, Source.membersToJson] at h
    cases hv : Source.toJsonAt depth v.written with
    | none => simp [hv] at h
    | some w =>
      cases hrest : Source.membersToJson depth (writtenMembers rest) with
      | none => simp [hv, hrest] at h
      | some tail =>
        obtain ⟨hkeys, hlookup⟩ := ih hrest
        obtain rfl : (key, w) :: tail = l := by simpa [hv, hrest] using h
        refine ⟨by simp [hkeys], fun name ↦ ?_⟩
        simp only [List.lookup_cons]
        cases name == key with
        | true => simp [hv]
        | false => exact hlookup name

/-- What is found in a dictionary that is read is what the value written there is read as. -/
theorem get?_of_toDict?_written {d found : Dict Json}
    (h : (ofDict d).written.toDict? = some found) (name : String) :
    found.get? name = (d.get? name).bind fun v ↦ Source.toJsonAt 126 v.written := by
  obtain ⟨v, hv, hmembers⟩ := Option.bind_eq_some_iff.mp h
  obtain ⟨l, hl, rfl⟩ := Option.map_eq_some_iff.mp hv
  obtain rfl : .ofList l = found := by simpa [ofDict, members?] using hmembers
  obtain ⟨hkeys, hlookup⟩ := lookup_membersToJson hl
  rw [Dict.get?_ofList (hkeys ▸ d.nodup_keys), hlookup, Dict.get?]

/-- A dictionary is read as it was written if its values are. -/
theorem toDict?_written {d : Dict Json}
    (h : ∀ p ∈ d.entries, Source.toJsonAt 126 p.2.written = some p.2) :
    (ofDict d).written.toDict? = some d := by
  have hmembers := membersToJson_written h
  simp [ofDict, written, Source.toDict?, Source.toJson?, Source.maxDepth, Source.toJsonAt,
    hmembers, members?]

end BearerAuth.Json
