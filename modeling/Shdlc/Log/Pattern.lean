import Shdlc.Text.Alphanumeric
import Shdlc.Text.Blank
import Shdlc.Text.Hexadecimal
/-!
Patterns for the values of fields: regular expressions. A filter never matches them, it only has to
tell them from other texts. So a text is read once from left to right, and all that is kept of its
parts is how deep they nest.

Patterns are matched against UTF-8 without tables of Unicode. What needs such a table is refused
while texts are taken as characters: to ignore case, `\d`, `\s`, `\w` and the edges of words. What
could match a part of a character is refused while they are taken as bytes.
-/
namespace Shdlc.Log.Pattern

/-- How a pattern is read. Flags change it up to the end of the group that they stand in. -/
structure Mode where
  /-- Blanks and comments between the parts count for nothing. -/
  spaced : Bool := false
  ignoreCase : Bool := false
  /-- Texts are taken as characters, not as bytes. -/
  unicode : Bool := true
deriving DecidableEq, Repr

namespace Mode

/-- The text without blanks and comments in front. A comment goes from `#` to the end of a line. -/
def dropNotes (inComment : Bool) : List Char → List Char
  | [] => []
  | c :: rest =>
    if inComment then dropNotes (c != '\n') rest
    else if Text.isBlank c then dropNotes false rest
    else if c == '#' then dropNotes true rest
    else c :: rest

def skip (m : Mode) (text : List Char) : List Char :=
  if m.spaced then dropNotes false text else text

/-- The character that decides whether a dash in front of the text joins a range. Of a comment only
its mark is passed over. -/
def peek? (m : Mode) (text : List Char) : Option Char :=
  if m.spaced then
    match text.dropWhile Text.isBlank with
    | '#' :: rest => (rest.dropWhile Text.isBlank).head?
    | rest => rest.head?
  else text.head?

/-- The value of a flag after the flags `letters`: those behind a minus sign are turned off. -/
def flag (letters : List Char) (letter : Char) (before : Bool) : Bool :=
  if (letters.takeWhile (· != '-')).contains letter then true
  else before && !letters.contains letter

def set (m : Mode) (letters : List Char) : Mode where
  spaced := flag letters 'x' m.spaced
  ignoreCase := flag letters 'i' m.ignoreCase
  unicode := flag letters 'u' m.unicode

end Mode

def flagLetters : List Char := ['i', 'm', 's', 'U', 'u', 'R', 'x', '-']

/-- Whether the characters are flags, none of them twice, with at most one minus sign, which is not
the last of them. -/
def areFlags (letters : List Char) : Bool :=
  letters.all (fun c => flagLetters.contains c && letters.count c == 1) &&
    letters.getLast? != some '-'

/-! ### Characters and what is written with a backslash -/

/-- A part without parts. -/
inductive Atom where
  /-- A character; `isByte` if it is written as a byte. -/
  | character (c : Char) (isByte : Bool)
  | any
  /-- The digits, blanks or word characters, or all but those. -/
  | kind (negated : Bool)
  /-- The start or end of a line or text. -/
  | margin
  | wordEdge
deriving DecidableEq, Repr

namespace Atom

def isUsableInSet (m : Mode) : Atom → Bool
  | .character c _ => if m.unicode then !m.ignoreCase else c.toNat < 128
  | .kind negated => !m.unicode && !negated
  | _ => false

def isUsable (m : Mode) : Atom → Bool
  | .character c isByte => if m.unicode then !m.ignoreCase else !isByte || c.toNat < 128
  | .any => m.unicode
  | .kind negated => !m.unicode && !negated
  | .margin => true
  | .wordEdge => !m.unicode

def ofEscape? (c : Char) : Option Atom :=
  match c with
  | 'd' | 's' | 'w' => some (.kind false)
  | 'D' | 'S' | 'W' => some (.kind true)
  | 'A' | 'z' => some .margin
  | 'b' | 'B' | '<' | '>' => some .wordEdge
  | 'a' => some (.character '\x07' false)
  | 't' => some (.character '\t' false)
  | 'n' => some (.character '\n' false)
  | 'v' => some (.character '\x0b' false)
  | 'f' => some (.character '\x0c' false)
  | 'r' => some (.character '\r' false)
  | _ => if c.toNat < 128 && !c.isAlphanum then some (.character c false) else none

/-- The number of hexadecimal digits that a letter behind a backslash asks for. -/
def digitCount? : Char → Option Nat
  | 'x' => some 2
  | 'u' => some 4
  | 'U' => some 8
  | _ => none

/-- Reads so many hexadecimal digits after those that made `value`. -/
def readDigits? (m : Mode) (value : Nat) : Nat → List Char → Option (Nat × List Char)
  | 0, text => some (value, text)
  | _ + 1, [] => none
  | count + 1, c :: rest => do
    readDigits? m (16 * value + (← Hexadecimal.value? c)) count (m.skip rest)

def readEscape? (m : Mode) : List Char → Option (Atom × List Char)
  | [] => none
  | c :: rest =>
    match digitCount? c with
    | some count => do
      let (code, rest) ← readDigits? m 0 count (m.skip rest)
      if code.isValidChar then some (.character (Char.ofNat code) (c == 'x'), rest) else none
    | none => (ofEscape? c).map (·, rest)

/-- Reads an atom of a set that begins with `c`. -/
def readInSet? (m : Mode) (c : Char) (rest : List Char) : Option (Atom × List Char) :=
  if c == '\\' then readEscape? m rest else some (.character c false, rest)

/-- Reads an atom outside of sets that begins with `c`. -/
def read? (m : Mode) (c : Char) (rest : List Char) : Option (Atom × List Char) :=
  match c with
  | '\\' => readEscape? m rest
  | '.' => some (.any, rest)
  | '^' | '$' => some (.margin, rest)
  | _ => some (.character c false, rest)

end Atom

/-! ### Depth -/

/-- Parts side by side. -/
structure Parts where
  count : Nat := 0
  /-- How deep the deepest of them nests. -/
  depth : Nat := 0
  /-- The depth of the last one, if it can be repeated. -/
  last : Option Nat := none
deriving DecidableEq, Repr

namespace Parts

def add (p : Parts) (depth : Nat) : Parts := ⟨p.count + 1, max p.depth depth, some depth⟩

/-- Flags, which count as a part but cannot be repeated. -/
def addFlags (p : Parts) : Parts := { p with count := p.count + 1, last := none }

/-- The parts with the last one repeated. -/
def repeat? (p : Parts) : Option Parts :=
  p.last.map fun depth => { p with depth := max p.depth (depth + 1), last := some (depth + 1) }

/-- How deep the parts nest together; a part on its own nests as deep as it is. -/
def nesting (p : Parts) : Nat := if p.count ≤ 1 then p.depth else p.depth + 1

end Parts

/-- How deep a pattern may nest. -/
def maxNesting : Nat := 250

/-! ### Sets in brackets -/

/-- Where the reader of a set stands. -/
inductive SetPlace where
  /-- Behind the bracket, where a caret negates the set. -/
  | start
  /-- Where a dash is a character, and a bracket too if nothing stands before it. -/
  | dashes
  | items
deriving DecidableEq, Repr

/-- A set part way through. -/
structure OpenSet where
  place : SetPlace := .start
  negated : Bool := false
  items : Parts := {}
  /-- The depth of what stands before the last operator. -/
  left : Option Nat := none
deriving DecidableEq, Repr

namespace OpenSet

def add (s : OpenSet) (depth : Nat) : OpenSet :=
  { s with place := .items, items := s.items.add depth }

def nesting (s : OpenSet) : Nat :=
  match s.left with
  | none => s.items.nesting
  | some depth => max depth s.items.nesting + 1

def operate (s : OpenSet) : OpenSet :=
  { s with place := .items, items := {}, left := some s.nesting }

end OpenSet

def classNames : List String :=
  ["alnum", "alpha", "ascii", "blank", "cntrl", "digit", "graph", "lower", "print", "punct",
    "space", "upper", "word", "xdigit"]

/-- Reads a class such as `[:alpha:]` behind its first bracket: whether a caret negates it, and what
follows it. -/
def readClass? : List Char → Option (Bool × List Char)
  | ':' :: text =>
    let negated := text.head? == some '^'
    let text := if negated then text.tail else text
    match text.dropWhile (· != ':') with
    | ':' :: ']' :: rest =>
      if classNames.contains (String.ofList (text.takeWhile (· != ':'))) then some (negated, rest)
      else none
    | _ => none
  | _ => none

/-- Reads an item of a set, a single one or a range, and gives what follows it. -/
def readItem? (m : Mode) (c : Char) (rest : List Char) : Option (List Char) := do
  let (first, rest) ← Atom.readInSet? m c rest
  let single := if first.isUsableInSet m then some rest else none
  match m.skip rest with
  | '-' :: after =>
    if m.peek? after == some ']' || m.peek? after == some '-' then single
    else match m.skip after with
      | [] => none
      | c :: rest => do
        let (last, rest) ← Atom.readInSet? m c rest
        match first, last with
        | .character a _, .character b _ =>
          if a ≤ b && first.isUsableInSet m && last.isUsableInSet m then some rest else none
        | _, _ => none
  | _ => single

/-! ### The whole pattern -/

/-- What stands in a group, or in no group. -/
structure Body where
  /-- The finished alternatives. -/
  branches : Parts := {}
  /-- The alternative part way through. -/
  parts : Parts := {}
deriving DecidableEq, Repr

namespace Body

def add (b : Body) (depth : Nat) : Body := { b with parts := b.parts.add depth }

def branch (b : Body) : Body := ⟨b.branches.add b.parts.nesting, {}⟩

def nesting (b : Body) : Nat := b.branch.branches.nesting

end Body

/-- A reader: what is open, from the inside out. -/
structure Reader where
  mode : Mode := {}
  /-- The names of groups so far. -/
  names : List (List Char) := []
  sets : List OpenSet := []
  body : Body := {}
  /-- What stands around the innermost group, and the modes that come back behind it. -/
  groups : List (Body × Mode) := []
deriving Repr

namespace Reader

def add (r : Reader) (depth : Nat) : Reader := { r with body := r.body.add depth }

def enter (r : Reader) (mode : Mode) : Reader :=
  { r with mode, body := {}, groups := (r.body, r.mode) :: r.groups }

def isName (name : List Char) : Bool :=
  match name with
  | [] => false
  | c :: rest =>
    (c == '_' || Text.isLetter c) &&
      rest.all fun c => ['_', '.', '[', ']'].contains c || Text.isAlphanumeric c

/-- Begins a group with a name, read from where the name begins. -/
def enterNamed? (r : Reader) (text : List Char) : Option (Reader × List Char) :=
  let name := text.takeWhile (· != '>')
  match text.dropWhile (· != '>') with
  | [] => none
  | _ :: rest =>
    if isName name && !r.names.contains name then
      some ({ r.enter r.mode with names := name :: r.names }, rest)
    else none

/-- Reads flags, which stand for themselves or begin a group. -/
def flags? (r : Reader) (text : List Char) : Option (Reader × List Char) :=
  let letters := text.takeWhile fun c => c != ':' && c != ')'
  if areFlags letters then
    let mode := r.mode.set letters
    match text.drop letters.length with
    | [] => none
    | ':' :: rest => some (r.enter mode, rest)
    | _ :: rest =>
      if letters.isEmpty then none
      else some ({ r with mode, body := { r.body with parts := r.body.parts.addFlags } }, rest)
  else none

def open? (r : Reader) : List Char → Option (Reader × List Char)
  | '?' :: 'P' :: '<' :: rest => r.enterNamed? rest
  | '?' :: '<' :: rest => r.enterNamed? rest
  | '?' :: rest => r.flags? rest
  | rest => some (r.enter r.mode, rest)

def close? (r : Reader) : Option Reader :=
  match r.groups with
  | [] => none
  | (body, mode) :: groups => some { r with mode, body := body.add (r.body.nesting + 1), groups }

/-- Ends a set that stands in those of `outer`. -/
def closeSet? (r : Reader) (s : OpenSet) (outer : List OpenSet) : Option Reader :=
  if s.negated && !r.mode.unicode then none
  else match outer with
    | [] => some { r.add (s.nesting + 1) with sets := [] }
    | parent :: outer => some { r with sets := parent.add (s.nesting + 1) :: outer }

/-- Takes a character in the set `s`, which stands in those of `outer`. -/
def stepInSet? (r : Reader) (s : OpenSet) (outer : List OpenSet) (c : Char) (rest : List Char) :
    Option (Reader × List Char) :=
  let character (place : SetPlace) : Option (Reader × List Char) :=
    if (Atom.character c false).isUsableInSet r.mode then
      some ({ r with sets := { s.add 0 with place } :: outer }, rest)
    else none
  if s.place == .start && c == '^' then
    some ({ r with sets := { s with place := .dashes, negated := true } :: outer }, rest)
  else if s.place != .items && c == '-' then character .dashes
  else if s.place != .items && c == ']' && s.items.count == 0 then character .items
  else if c == ']' then (r.closeSet? s outer).map (·, rest)
  else if c == '[' then
    match readClass? rest with
    | some (negated, rest) =>
      if (if r.mode.unicode then r.mode.ignoreCase else negated) then none
      else some ({ r with sets := s.add 0 :: outer }, rest)
    | none => some ({ r with sets := {} :: { s with place := .items } :: outer }, rest)
  else if ['&', '-', '~'].contains c && rest.head? == some c then
    some ({ r with sets := s.operate :: outer }, rest.tail)
  else (readItem? r.mode c rest).map ({ r with sets := s.add 0 :: outer }, ·)

def stepInBody? (r : Reader) (c : Char) (rest : List Char) : Option (Reader × List Char) :=
  match c with
  | '(' => r.open? (r.mode.skip rest)
  | ')' => r.close?.map (·, rest)
  | '|' => some ({ r with body := r.body.branch }, rest)
  | '[' => some ({ r with sets := [{}] }, rest)
  | '?' | '*' | '+' => do
    let parts ← r.body.parts.repeat?
    let rest := if rest.head? == some '?' then rest.tail else rest
    return ({ r with body := { r.body with parts } }, rest)
  | '\x7b' => none
  | _ => do
    let (atom, rest) ← Atom.read? r.mode c rest
    if atom.isUsable r.mode then some (r.add 0, rest) else none

/-- Takes a character and what belongs to it; `rest` is what follows the character. -/
def step? (r : Reader) (c : Char) (rest : List Char) : Option (Reader × List Char) :=
  match r.sets with
  | s :: outer => r.stepInSet? s outer c rest
  | [] => r.stepInBody? c rest

/-- Takes a text of at most `length` characters. -/
def read? (r : Reader) : Nat → List Char → Option Reader
  | length, text =>
    match r.mode.skip text, length with
    | [], _ => some r
    | _ :: _, 0 => none
    | c :: rest, length + 1 => do
      let (r, rest) ← r.step? c rest
      r.read? length rest

def isComplete (r : Reader) : Bool :=
  r.sets.isEmpty && r.groups.isEmpty && r.body.nesting ≤ maxNesting

end Reader

end Pattern

/-- Whether a text without closing braces is a pattern. An opening brace would begin a number of
repetitions, which has no end then. -/
def isPattern (text : List Char) : Bool :=
  (({} : Pattern.Reader).read? text.length text).any (·.isComplete)

end Shdlc.Log
