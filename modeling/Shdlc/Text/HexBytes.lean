import Shdlc.Text.Blank
import Shdlc.Text.Hexadecimal
/-!
Bytes as people type them: pairs of hexadecimal digits, blanks anywhere, `0x` in front or not.
-/
namespace Shdlc.Text

/-- Why a text is no list of bytes in base 16. -/
inductive HexFault where
  | oddCount
  | badByte (byte : UInt8) (position : Nat)
deriving DecidableEq, Repr

/-- A byte as the character of that number between single quotes, escaped unless it prints. -/
def quoteByte (b : UInt8) : String :=
  let inner :=
    if b == 0 then "\\0"
    else if b == 9 then "\\t"
    else if b == 10 then "\\n"
    else if b == 13 then "\\r"
    else if b == 34 then "\""
    else if b == 39 then "\\'"
    else if b == 92 then "\\\\"
    else if b < 32 || (127 ≤ b && b < 161) || b == 173 then
      let digits := [Hexadecimal.small (b.toNat / 16), Hexadecimal.small (b.toNat % 16)]
      "\\u\x7b" ++ String.ofList (digits.dropWhile (· == '0')) ++ "\x7d"
    else String.singleton (Char.ofNat b.toNat)
  "'" ++ inner ++ "'"

def HexFault.message : HexFault → String
  | .oddCount => "Odd number of digits"
  | .badByte byte position =>
    "Invalid character " ++ quoteByte byte ++ " at position " ++ toString position

/-- Reads pairs of digits, the first of them at `position`. -/
def readPairsFrom (position : Nat) : List UInt8 → Except HexFault Bytes
  | [] => .ok []
  | [_] => .error .oddCount
  | high :: low :: rest =>
    match Hexadecimal.value? (Char.ofNat high.toNat), Hexadecimal.value? (Char.ofNat low.toNat) with
    | none, _ => .error (.badByte high position)
    | some _, none => .error (.badByte low (position + 1))
    | some h, some l => (UInt8.ofNat (16 * h + l) :: ·) <$> readPairsFrom (position + 2) rest

/-- Reads pairs of digits. Positions and the count are those of the bytes of the text's UTF-8
form, so a character outside ASCII counts as several. -/
def readPairs (digits : List Char) : Except HexFault Bytes :=
  let units := (String.ofList digits).toUTF8.toList
  if units.length % 2 = 1 then .error .oddCount else readPairsFrom 0 units

/-- A text that was to be a list of bytes, and what is wrong with it. -/
structure HexBytesError where
  text : String
  fault : HexFault
deriving DecidableEq, Repr

def HexBytesError.message (e : HexBytesError) : String :=
  "invalid hex bytes '" ++ e.text ++ "': " ++ e.fault.message

/-- Reads bytes written with two digits each; blanks are skipped and `0x` may stand in front. -/
def hexBytes (text : String) : Except HexBytesError Bytes :=
  let trimmed := trim text.toList
  let body := (afterHexPrefix? trimmed).getD trimmed
  match readPairs (body.filter fun c => !isBlank c) with
  | .ok bytes => .ok bytes
  | .error fault => .error ⟨text, fault⟩

end Shdlc.Text
