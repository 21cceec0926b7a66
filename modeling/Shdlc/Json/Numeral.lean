import Shdlc.Json.Value
import Shdlc.Text.Number
/-!
Numerals of JSON: their grammar, and the numbers they stand for. A numeral without fraction and
exponent is an integer if it fits into a 64-bit word. Every other one is a double: as many digits as
fit into such a word are taken as they are, and one multiplication or division by a power of ten
follows, so the result may be a neighbour of the nearest double.
-/
namespace Shdlc.Json

/-- How far a numeral has been read, by what was read last. -/
inductive Numeral.Stage where
  | minus | zero | integer | point | fraction | mark | sign | exponent
deriving DecidableEq, Repr, Inhabited

def Numeral.Stage.isFinal : Numeral.Stage → Bool
  | .zero | .integer | .fraction | .exponent => true
  | .minus | .point | .mark | .sign => false

/-- A numeral part way through. -/
structure Numeral where
  stage : Numeral.Stage
  negative : Bool := false
  /-- The digits taken so far, as a number. -/
  significand : Nat := 0
  /-- The power of ten that the digits left out or behind the point ask for. -/
  shift : Int := 0
  /-- Whether digits before the point no longer fit. -/
  wide : Bool := false
  /-- Whether digits behind the point no longer fit. -/
  full : Bool := false
  exponentNegative : Bool := false
  /-- The digits of the exponent as a number, which stops growing beyond every possible use. -/
  exponent : Nat := 0
deriving DecidableEq, Repr, Inhabited

namespace Numeral

/-- The exponent above which no further digit of it is taken. -/
def maxExponent : Nat := 0x7FFFFFFF

/-- A numeral that begins with `c`. -/
def start? (c : Char) : Option Numeral :=
  if c = '-' then some { stage := .minus, negative := true }
  else if c = '0' then some { stage := .zero }
  else (Text.digit? 10 c).map fun d => { stage := .integer, significand := d }

def addWhole (n : Numeral) (d : Nat) : Numeral :=
  if n.wide || Text.maxWord < n.significand * 10 + d then
    { n with stage := .integer, wide := true, shift := n.shift + 1 }
  else { n with stage := .integer, significand := n.significand * 10 + d }

def addFraction (n : Numeral) (d : Nat) : Numeral :=
  if n.full || Text.maxWord < n.significand * 10 + d then
    { n with stage := .fraction, full := true }
  else { n with stage := .fraction, significand := n.significand * 10 + d, shift := n.shift - 1 }

def addExponent (n : Numeral) (d : Nat) : Numeral :=
  { n with stage := .exponent, exponent := min (n.exponent * 10 + d) (maxExponent + 1) }

/-- The numeral with `c` behind it, if it goes on with `c`. -/
def next? (n : Numeral) (c : Char) : Option Numeral :=
  let digit := Text.digit? 10 c
  match n.stage with
  | .minus =>
    if c = '0' then some { n with stage := .zero }
    else digit.map fun d => { n with stage := .integer, significand := d }
  | .zero =>
    if c = '.' then some { n with stage := .point }
    else if c = 'e' ∨ c = 'E' then some { n with stage := .mark }
    else none
  | .integer =>
    if c = '.' then some { n with stage := .point }
    else if c = 'e' ∨ c = 'E' then some { n with stage := .mark }
    else digit.map n.addWhole
  | .point => digit.map n.addFraction
  | .fraction =>
    if c = 'e' ∨ c = 'E' then some { n with stage := .mark } else digit.map n.addFraction
  | .mark =>
    if c = '+' then some { n with stage := .sign }
    else if c = '-' then some { n with stage := .sign, exponentNegative := true }
    else digit.map n.addExponent
  | .sign | .exponent => digit.map n.addExponent

def maxPower : Nat := 308

/-- Scales `x` by a power of ten, in steps of at most `maxPower` when it shrinks. -/
def scaleBy (x : Float) : Nat → Int → Option Float
  | 0, _ => none
  | fuel + 1, power =>
    if power.natAbs ≤ maxPower then
      let factor := Float.ofScientific 1 false power.natAbs
      if 0 ≤ power then
        let y := x * factor
        if y.isInf then none else some y
      else some (x / factor)
    else if x == 0 then some x
    else if 0 ≤ power then none
    else scaleBy (x / Float.ofScientific 1 false maxPower) fuel (power + maxPower)

/-- The double that the numeral stands for, unless it is beyond all. -/
def double? (n : Numeral) : Option Double :=
  let signed (x : Float) : Double := Double.ofFloat (if n.negative then -x else x)
  if maxExponent < n.exponent then
    if n.significand ≠ 0 ∧ !n.exponentNegative then none else some (signed 0)
  else
    let power := if n.exponentNegative then n.shift - n.exponent else n.shift + n.exponent
    -- A positive double is zero after four steps down.
    (scaleBy n.significand.toUInt64.toFloat 5 power).map signed

/-- Whether the numeral has neither fraction nor exponent and fits into a word. -/
def isPlain (n : Numeral) : Bool := (n.stage = .zero ∨ n.stage = .integer) && !n.wide

/-- The absolute value of the least signed 64-bit word. -/
def minWord : Nat := 0x8000000000000000

/-- The number of a numeral, unless it is beyond every double. -/
def value? (n : Numeral) : Option Number :=
  if n.isPlain then
    if !n.negative then some (.integer n.significand)
    else if 0 < n.significand ∧ n.significand ≤ minWord then some (.integer (-n.significand))
    else some (.double (Double.ofFloat (-n.significand.toUInt64.toFloat)))
  else n.double?.map .double

end Numeral

end Shdlc.Json
