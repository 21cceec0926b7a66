import Shdlc.Text.Blank
import Shdlc.Text.Hexadecimal
/-!
Unsigned numbers as people type them: decimal, or base 16 after `0x`. A value is followed digit by
digit, so a text whose digits pass the limit is too large even if a bad character comes later.
-/
namespace Shdlc.Text

/-- Why a text is no unsigned number. -/
inductive DigitFault where
  | empty
  | badDigit
  | tooLarge
deriving DecidableEq, Repr

def DigitFault.message : DigitFault → String
  | .empty => "cannot parse integer from empty string"
  | .badDigit => "invalid digit found in string"
  | .tooLarge => "number too large to fit in target type"

/-- The value of `c` as a digit in a base of at most 16. -/
def digit? (base : Nat) (c : Char) : Option Nat := (Hexadecimal.value? c).filter (· < base)

/-- Reads digits after those that made `value`, up to `limit`. -/
def readDigits (base limit : Nat) (value : Nat) : List Char → Except DigitFault Nat
  | [] => .ok value
  | c :: rest =>
    match digit? base c with
    | none => .error .badDigit
    | some d =>
      if limit < value * base + d then .error .tooLarge
      else readDigits base limit (value * base + d) rest

/-- Reads at least one digit, after at most one plus sign. -/
def readUnsigned (base limit : Nat) : List Char → Except DigitFault Nat
  | [] => .error .empty
  | ['+'] => .error .badDigit
  | '+' :: rest => readDigits base limit 0 rest
  | text => readDigits base limit 0 text

/-- The largest 64-bit word. -/
def maxWord : Nat := 0xFFFFFFFFFFFFFFFF

/-- Why a typed number is refused. -/
inductive NumberError where
  | malformed (text : String) (fault : DigitFault)
  | outOfRange (text : String)
deriving DecidableEq, Repr

def NumberError.message : NumberError → String
  | .malformed text fault => "invalid number '" ++ text ++ "': " ++ fault.message
  | .outOfRange text => "number " ++ text ++ " is out of range"

/-- Reads a number of at most `limit`, decimal or after `0x` in base 16, between blanks. -/
def number (limit : Nat) (text : String) : Except NumberError Nat :=
  let trimmed := trim text.toList
  let read := match afterHexPrefix? trimmed with
    | some digits => readUnsigned 16 maxWord digits
    | none => readUnsigned 10 maxWord trimmed
  match read with
  | .error fault => .error (.malformed text fault)
  | .ok n => if n ≤ limit then .ok n else .error (.outOfRange text)

def isExponent (text : List Char) : Bool :=
  match text with
  | [] => true
  | mark :: rest =>
    let digits := match rest with
      | '+' :: digits | '-' :: digits => digits
      | digits => digits
    mark.toLower == 'e' && !digits.isEmpty && digits.all Char.isDigit

/-- Whether a text is a decimal number: digits, maybe with a point and an exponent, or the name of
what is no finite number; all of it maybe after a sign. -/
def isDecimal (text : List Char) : Bool :=
  let unsigned := match text with
    | '+' :: rest | '-' :: rest => rest
    | rest => rest
  let whole := unsigned.takeWhile Char.isDigit
  let behind := unsigned.drop whole.length
  let (fraction, behind) := match behind with
    | '.' :: rest => (rest.takeWhile Char.isDigit, rest.dropWhile Char.isDigit)
    | rest => ([], rest)
  ["inf", "infinity", "nan"].contains (String.ofList (unsigned.map Char.toLower)) ||
    (!(whole ++ fraction).isEmpty && isExponent behind)

end Shdlc.Text
