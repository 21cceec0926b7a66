import Shdlc.Decimal.Double
/-! Numbers with a fixed count of digits after the point, rounded to nearest, ties to even. -/
namespace Shdlc.Decimal

/-- `num / den` rounded to the nearest natural number, a tie to the even one. -/
def roundEven (num den : Nat) : Nat :=
  let q := num / den
  let r := num % den
  if 2 * r < den then q else if den < 2 * r then q + 1 else q + q % 2

/-- A natural number times a negative power of ten, with all its `places` digits. -/
def withPoint (places scaled : Nat) : String :=
  let fraction := toString (scaled % Nat.pow 10 places)
  toString (scaled / Nat.pow 10 places) ++ "." ++
    String.ofList (List.replicate (places - fraction.length) '0') ++ fraction

/-- `num / den` with `places` digits after the point. -/
def quotient (places num den : Nat) : String :=
  withPoint places (roundEven (num * Nat.pow 10 places) den)

/-- A count of bytes in units of 1024, with two digits after the point. -/
def kilobytes (count : Nat) : String := quotient 2 count 1024

/-- A finite number with `places` digits after the point. -/
def fixed (places : Nat) (x : Double) : String :=
  (if x.isNegative then "-" else "") ++
    quotient places (x.significand <<< x.scale) (1 <<< Double.unit)

end Shdlc.Decimal
