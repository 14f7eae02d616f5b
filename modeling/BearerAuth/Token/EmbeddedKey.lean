import BearerAuth.Json.Shape

/-!
# Keys inside headers

A token's header may carry a key.  The key is never used, but a header is refused if what stands
there is not a key: common members of the right shape, and the members that its kind asks for.
-/

namespace BearerAuth.Token.EmbeddedKey

open Json (Source)
open Json.Source (optional? required? textOrNull? textsOrNull? choice? text?)

/-- The curves that a key may name. -/
def curves : List String := ["P-256", "P-384", "P-521", "Ed25519"]

/-- A choice or `null`. -/
def choiceOrNull? : Source → Option (Option String)
  | .null => some none
  | s => s.choice?.map some

/-- Whether the members that all kinds of keys share have the right shape. -/
def commonIsRight (members : List (String × Source)) : Bool :=
  (["use", "kid", "x5u", "x5t", "x5t#S256"].all fun name ↦
      (optional? textOrNull? members name).isSome) &&
    (["key_ops", "x5c"].all fun name ↦ (optional? textsOrNull? members name).isSome) &&
    (optional? choiceOrNull? members "alg").isSome

/-- Whether a key names a kind and has the texts that go with it. -/
def hasKind (members : List (String × Source)) (kind : String) (texts : List String) : Bool :=
  (required? members "kty").bind choice? = some kind &&
    texts.all fun name ↦ ((required? members name).bind text?).isSome

/-- Whether a key names a known curve. -/
def hasCurve (members : List (String × Source)) : Bool :=
  match (required? members "crv").bind choice? with
  | some curve => curve ∈ curves
  | none => false

/-- Whether a part of a header is a key. -/
def isKey : Source → Bool
  | .object members =>
    match Json.Source.named? members with
    | none => false
    | some members =>
      commonIsRight members &&
        (hasKind members "EC" ["x", "y"] && hasCurve members ||
          hasKind members "RSA" ["n", "e"] ||
          hasKind members "oct" ["k"] ||
          hasKind members "OKP" ["x"] && hasCurve members)
  | _ => false

end BearerAuth.Token.EmbeddedKey
