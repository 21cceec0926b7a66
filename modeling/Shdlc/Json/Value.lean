import Shdlc.Decimal.Double
/-! JSON values. -/
namespace Shdlc

namespace Json

/-- A number: an integer, or a double where it is written with a fraction or an exponent. -/
inductive Number where
  | integer (n : Int)
  | double (x : Double)
deriving DecidableEq, Repr, Inhabited

end Json

/-- A JSON value. Members of an object keep their order. -/
inductive Json where
  | null
  | bool (b : Bool)
  | number (n : Json.Number)
  | text (s : String)
  | array (elements : List Json)
  | object (members : List (String × Json))
  /-- Well-formed, yet without a value: a number beyond every double, a text with half of a
  surrogate pair, or an object that has such a text for a name. -/
  | unreadable
deriving Inhabited

namespace Json

def ofNat (n : Nat) : Json := .number (.integer n)

def ofDouble (x : Double) : Json := .number (.double x)

end Json

end Shdlc
