import Shdlc.Json.Value
/-!
Structures in JSON. A structure with named fields is read from an object, whose other members are
ignored, or from an array of exactly its fields in order.
-/
namespace Shdlc.Json

/-- The only member with this name; the outer `none` if there are several. -/
def member? (members : List (String × Json)) (name : String) : Option (Option Json) :=
  match members.filter (·.1 = name) with
  | [] => some none
  | [(_, v)] => some (some v)
  | _ => none

/-- The values of the named fields, in their order; a field that is missing has none. -/
def fields? (names : List String) : Json → Option (List (Option Json))
  | .object members => names.mapM (member? members)
  | .array elements => if elements.length = names.length then some (elements.map some) else none
  | _ => none

/-- An integer of at most `most`. -/
def natural? (most : Nat) : Json → Option Nat
  | .number (.integer n) => if 0 ≤ n ∧ n ≤ most then some n.toNat else none
  | _ => none

def double? : Json → Option Double
  | .number (.integer n) =>
    let magnitude := n.natAbs.toUInt64.toFloat
    some (Double.ofFloat (if n < 0 then -magnitude else magnitude))
  | .number (.double x) => some x
  | _ => none

def text? : Json → Option String
  | .text s => some s
  | _ => none

def bool? : Json → Option Bool
  | .bool b => some b
  | _ => none

end Shdlc.Json
