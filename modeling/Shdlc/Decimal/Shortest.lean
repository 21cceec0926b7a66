import Shdlc.Decimal.Double
/-!
The shortest decimal that reads back as a given double. A decimal reads back if it lies in the
interval of reals that are rounded to the double; the ends belong to it when the significand is
even. On the grid of decimals with a given count of digits only the two neighbours of the value have
to be looked at: if any point of the grid lies in the interval, one of them does.
-/
namespace Shdlc.Decimal

/-- Digits and a power of ten: `digits * 10 ^ (exponent - 400)`. -/
structure Scientific where
  digits : Nat
  exponent : Nat
deriving DecidableEq, Repr

/-- The shift of the exponent of `Scientific`, beyond that of any double. -/
def Scientific.shift : Nat := 400

/-- An open or closed interval of multiples of one unit, with the value it belongs to. -/
structure Interval where
  low : Nat
  value : Nat
  high : Nat
  closed : Bool

/-- The interval of a positive double, in units of a quarter of the least positive double. Below a
power of two the neighbour is only half as far away as above it. -/
def Interval.ofDouble (x : Double) : Interval :=
  let step := 1 <<< x.scale
  let value := 4 * x.significand * step
  let below := if x.significand = Double.hidden ∧ 0 < x.scale then step else 2 * step
  ⟨value - below, value, value + 2 * step, x.significand % 2 = 0⟩

/-- Whether `point / den` lies in the interval. -/
def Interval.contains (i : Interval) (point den : Nat) : Bool :=
  if i.closed then i.low * den ≤ point && point ≤ i.high * den
  else i.low * den < point && point < i.high * den

/-- The point nearest to the value on the grid of multiples of `10 ^ (exponent - shift)`, if one
lies in the interval; between two equally near ones the even one. -/
def Interval.nearest? (i : Interval) (exponent : Nat) : Option Nat :=
  -- One unit of the interval is `1 / 2 ^ (unit + 2)`; both sides are multiplied by `10 ^ shift`.
  let den := (1 <<< (Double.unit + 2)) * Nat.pow 10 exponent
  let num := i.value * Nat.pow 10 Scientific.shift
  let lower := num / den
  let inside (k : Nat) : Bool := i.contains (k * den) (Nat.pow 10 Scientific.shift)
  let preferLower := 2 * (num % den) < den || (2 * (num % den) = den && lower % 2 = 0)
  match inside lower, inside (lower + 1) with
  | true, true => some (if preferLower then lower else lower + 1)
  | true, false => some lower
  | false, true => some (lower + 1)
  | false, false => none

/-- The count of digits of the largest power of ten that is at most the value, shifted. -/
def Interval.leading (i : Interval) : Nat :=
  (toString (i.value * Nat.pow 10 Scientific.shift / (1 <<< (Double.unit + 2)))).length - 1

/-- Tries grids from the one of the leading digit on, each ten times as fine as the one before. -/
def Interval.search (i : Interval) : Nat → Nat → Scientific
  | 0, exponent => ⟨(i.nearest? exponent).getD 0, exponent⟩
  | more + 1, exponent =>
    match i.nearest? exponent with
    | some digits => ⟨digits, exponent⟩
    | none => i.search more (exponent - 1)

/-- The shortest decimal of a positive double; 17 digits always suffice. -/
def shortest (x : Double) : Scientific :=
  let i := Interval.ofDouble x
  i.search 16 i.leading

end Shdlc.Decimal
