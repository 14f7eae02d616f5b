import BearerAuth.Power

/-!
# Random identifiers

An identifier of 128 bits in groups of hexadecimal digits, of the version whose bits are random but
for those that name the version and the variant.
-/

namespace BearerAuth.Text

/-- The `index`-th hexadecimal digit of a random identifier: the thirteenth names the version, the
seventeenth has the variant in its upper half. -/
def uuidDigit (random index : Nat) : Char :=
  let digit := random / 16 ^ index % 16
  Nat.digitChar (if index = 12 then 4 else if index = 16 then 8 + digit % 4 else digit)

/-- The identifier of a random number. -/
def uuid (random : Nat) : String :=
  let group (first count : Nat) : String :=
    String.ofList ((List.range' first count).map (uuidDigit random))
  "-".intercalate [group 0 8, group 8 4, group 12 4, group 16 4, group 20 12]

end BearerAuth.Text
