import Shdlc.Log.Note
/-! Notes as they are written to a log. -/
namespace Shdlc.Log

/-- Control characters of ASCII by which a terminal would do something else than show a text. -/
def escapedControls : List Char := ['\x07', '\x08', '\x0c', '\x1b', '\x7f']

/-- How a character is written: a control character that a terminal might obey by its code. -/
def escapeChar (c : Char) : List Char :=
  let digits := [Hexadecimal.small (c.toNat / 16), Hexadecimal.small (c.toNat % 16)]
  if escapedControls.contains c then '\\' :: 'x' :: digits
  else if '\x80' ≤ c ∧ c ≤ '\x9f' then '\\' :: 'u' :: '\x7b' :: (digits ++ ['\x7d'])
  else [c]

def Note.written (n : Note) : String := String.ofList (n.line.toList.flatMap escapeChar)

end Shdlc.Log
