import Shdlc.Json.Value
import Shdlc.Decimal.Shortest
import Shdlc.Text.Hexadecimal
/-! JSON text of a value, without blanks. -/
namespace Shdlc.Json

/-- How a character stands in a JSON text: quotes, backslashes and control characters escaped. -/
def escapeChar (c : Char) : List Char :=
  if c = '"' then ['\\', '"']
  else if c = '\\' then ['\\', '\\']
  else if c = '\x08' then ['\\', 'b']
  else if c = '\x0c' then ['\\', 'f']
  else if c = '\n' then ['\\', 'n']
  else if c = '\r' then ['\\', 'r']
  else if c = '\t' then ['\\', 't']
  else if c.toNat < 32 then
    ['\\', 'u', '0', '0', Hexadecimal.small (c.toNat / 16), Hexadecimal.small (c.toNat % 16)]
  else [c]

def quote (s : String) : String := String.ofList ('"' :: (s.toList.flatMap escapeChar ++ ['"']))

/-- From this power of ten on doubles are written with an exponent. -/
def firstLarge : Int := 16

/-- The least power of ten of a leading digit that is written without an exponent. -/
def leastPlain : Int := -5

/-- Digits with the point behind the first of them, or none if there is only one. -/
def scientificDigits (digits : List Char) : List Char :=
  match digits with
  | d :: e :: rest => d :: '.' :: e :: rest
  | _ => digits

/-- Decimal digits of a positive number whose leading digit counts powers of ten `exponent`:
with a point and a digit on both sides of it, or with an exponent if very large or small. -/
def layOut (digits : List Char) (exponent : Int) : List Char :=
  if leastPlain ≤ exponent ∧ exponent < firstLarge then
    if exponent < 0 then
      '0' :: '.' :: (List.replicate (-exponent - 1).toNat '0' ++ digits)
    else
      let whole := exponent.toNat + 1
      let padded := digits ++ List.replicate (whole - digits.length) '0'
      let fraction := padded.drop whole
      padded.take whole ++ '.' :: (if fraction.isEmpty then ['0'] else fraction)
  else
    scientificDigits digits ++
      'e' :: (if exponent < 0 then '-' else '+') :: (toString exponent.natAbs).toList

/-- The shortest text that reads back as `x`; numbers without a finite value are written `null`. -/
def doubleText (x : Double) : String :=
  if x.isNaN || x.isInfinite then "null"
  else
    let sign := if x.isNegative then ['-'] else []
    if x.magnitude = 0 then String.ofList (sign ++ ['0', '.', '0'])
    else
      let shortest := Decimal.shortest x
      let digits := (toString shortest.digits).toList
      let exponent : Int := shortest.exponent + digits.length - 1 - Decimal.Scientific.shift
      let trimmed := (digits.reverse.dropWhile (· == '0')).reverse
      String.ofList (sign ++ layOut trimmed exponent)

def Number.render : Number → String
  | .integer n => toString n
  | .double x => doubleText x

mutual

def render : Json → String
  | .null => "null"
  | .bool b => if b then "true" else "false"
  | .number n => n.render
  | .text s => quote s
  | .array elements => "[" ++ renderElements elements ++ "]"
  | .object members => "\x7b" ++ renderMembers members ++ "\x7d"
  | .unreadable => "null"

def renderElements : List Json → String
  | [] => ""
  | [v] => render v
  | v :: rest => render v ++ "," ++ renderElements rest

def renderMembers : List (String × Json) → String
  | [] => ""
  | [(name, v)] => quote name ++ ":" ++ render v
  | (name, v) :: rest => quote name ++ ":" ++ render v ++ "," ++ renderMembers rest

end

end Shdlc.Json
