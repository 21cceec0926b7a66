/-! Lines of a text. -/
namespace Shdlc.Text

/-- Continues a line whose characters so far, the last first, are `line`. -/
def linesFrom (line : List Char) : List Char → List (List Char)
  | [] => if line.isEmpty then [] else [line.reverse]
  | '\n' :: rest =>
    ((if line.head? = some '\r' then line.tail else line).reverse) :: linesFrom [] rest
  | c :: rest => linesFrom (c :: line) rest

/-- The lines of a text. Each ends at a line feed, which takes one carriage return in front of it
along; the last one may lack it. -/
def lines (text : List Char) : List (List Char) := linesFrom [] text

end Shdlc.Text
