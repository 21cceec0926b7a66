/-!
Double-precision numbers by their bits, so that their order and their exact value are ordinary
arithmetic on natural numbers.
-/
namespace Shdlc

/-- A double-precision number: a sign bit, eleven bits of exponent, 52 bits of fraction. -/
structure Double where
  bits : UInt64
deriving DecidableEq, Repr, Inhabited

namespace Double

def ofFloat (x : Float) : Double := ⟨x.toBits⟩

def toFloat (x : Double) : Float := Float.ofBits x.bits

/-- What the sign bit counts for. -/
def signBit : Nat := 0x8000000000000000

/-- What the lowest bit of the exponent counts for, which is also the bit that significands have in
front of their fraction. -/
def hidden : Nat := 0x10000000000000

def magnitude (x : Double) : Nat := x.bits.toNat % signBit

/-- Whether the sign bit is set, as it also is in minus zero. -/
def isNegative (x : Double) : Bool := signBit ≤ x.bits.toNat

/-- The magnitude of the infinities; above it all are no numbers. -/
def infinite : Nat := 0x7FF * hidden

def isNaN (x : Double) : Bool := infinite < x.magnitude

def isInfinite (x : Double) : Bool := x.magnitude = infinite

/-- A key in whose order the numbers stand; both zeros have the same. -/
def key (x : Double) : Int := if x.isNegative then -(x.magnitude : Int) else x.magnitude

/-- Whether `x` is below `y`, which is never so if one of them is no number. -/
def lt (x y : Double) : Bool := !x.isNaN && !y.isNaN && x.key < y.key

def zero : Double := ⟨0⟩

def hundred : Double := ⟨0x4059000000000000⟩

/-- The factor in front of the power of two in the number's absolute value. -/
def significand (x : Double) : Nat :=
  if x.magnitude < hidden then x.magnitude else hidden + x.magnitude % hidden

/-- The number of times that power of two is doubled, beyond the least. -/
def scale (x : Double) : Nat := x.magnitude / hidden - 1

/-- The absolute value is `significand * 2 ^ scale / 2 ^ unit`. -/
def unit : Nat := 1074

end Double

end Shdlc
