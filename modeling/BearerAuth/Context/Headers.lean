import BearerAuth.Text.Utf8

/-!
# Headers

Headers are values under names.  Names are told apart without regard to the case of ASCII letters;
a name may have several values, and their order counts.  `Headers.values` is the view: everything
else is said through it.
-/

namespace BearerAuth

/-- A byte that may stand in the value of a header: no control character but the tabulator. -/
def HeaderValue.isSendable (b : UInt8) : Bool := b = 9 || (32 ≤ b && b ≠ 127)

/-- A byte of a value that is read as text: visible ASCII, the space and the tabulator. -/
def HeaderValue.isReadable (b : UInt8) : Bool := b = 9 || (32 ≤ b && b < 127)

/-- The value of a header.  It need not be text. -/
structure HeaderValue where
  /-- The bytes of the value. -/
  bytes : List UInt8
  /-- The value can be sent. -/
  sendable : bytes.all HeaderValue.isSendable = true
  deriving DecidableEq

namespace HeaderValue

/-- The value that consists of some bytes, if they can be sent. -/
def ofBytes? (bytes : List UInt8) : Option HeaderValue :=
  if h : bytes.all isSendable = true then some ⟨bytes, h⟩ else none

/-- The value that says a text, if it can be sent. -/
def of? (text : String) : Option HeaderValue := ofBytes? (Text.toBytes text)

/-- What the value says, if it says anything. -/
def text? (v : HeaderValue) : Option String := Text.ofBytes? v.bytes

/-- The value as text, if it can be read as such. -/
def read? (v : HeaderValue) : Option String :=
  if v.bytes.all isReadable then v.text? else none

end HeaderValue

/-- The lower case of the ASCII letters of a text. -/
def lowerCase (s : String) : String := String.ofList (s.toList.map Char.toLower)

/-- Values under names. -/
structure Headers where
  /-- The values with their names in lower case, those of one name in their order. -/
  entries : List (String × HeaderValue)
  deriving DecidableEq

namespace Headers

/-- No headers. -/
def empty : Headers := ⟨[]⟩

instance : Inhabited Headers := ⟨empty⟩

/-- The values of a name. -/
def values (h : Headers) (name : String) : List HeaderValue :=
  (h.entries.filter (·.1 = lowerCase name)).map Prod.snd

/-- The first value of a name. -/
def get? (h : Headers) (name : String) : Option HeaderValue := (h.values name).head?

/-- Whether a name has a value. -/
def contains (h : Headers) (name : String) : Bool := !(h.values name).isEmpty

/-- The headers with one more value of a name. -/
def append (h : Headers) (name : String) (v : HeaderValue) : Headers :=
  ⟨h.entries ++ [(lowerCase name, v)]⟩

/-- The headers without the values of a name. -/
def erase (h : Headers) (name : String) : Headers :=
  ⟨h.entries.filter (·.1 ≠ lowerCase name)⟩

/-- The headers with one value of a name in place of all its values. -/
def set (h : Headers) (name : String) (v : HeaderValue) : Headers := (h.erase name).append name v

/-- After setting, a name has one value and the other names have theirs. -/
theorem values_set (h : Headers) (name other : String) (v : HeaderValue) :
    (h.set name v).values other =
      if lowerCase other = lowerCase name then [v] else h.values other := by
  simp only [values, set, append, erase, List.filter_append, List.map_append, List.filter_filter]
  split
  · next heq => simp [heq]
  · next hne =>
    have hkeep : (h.entries.filter fun e ↦
        (decide (e.1 = lowerCase other) && !decide (e.1 = lowerCase name))) =
        h.entries.filter fun e ↦ decide (e.1 = lowerCase other) := by
      refine List.filter_congr fun e _ ↦ ?_
      by_cases he : e.1 = lowerCase other <;> simp [he, hne]
    simpa [Ne.symm hne] using congrArg (List.map Prod.snd) hkeep

/-- A name has the value that was set, and no other. -/
@[simp] theorem values_set_self (h : Headers) (name : String) (v : HeaderValue) :
    (h.set name v).values name = [v] := by
  rw [values_set, if_pos rfl]

end Headers

end BearerAuth
