import Shdlc.Json.Numeral
/-!
Reading JSON, one character at a time. Characters make tokens, tokens make values; what is open
stands on a stack, so a text may be nested as deeply as it likes and a reader can be stopped and
resumed between any two characters.
-/
namespace Shdlc.Json

/-- A token: punctuation, a text, or another value that holds no values. -/
inductive Token where
  | openArray | closeArray | openObject | closeObject | colon | comma
  /-- What stands in quotes; `none` if half of a surrogate pair is missing. -/
  | text (s : Option String)
  | scalar (value : Json)
deriving Inhabited

/-! ### Values from tokens -/

/-- A container part way through, its elements so far in reverse. -/
inductive Open where
  | array (done : List Json)
  /-- Members so far, and the name whose value comes next; `none` for a name without a text. -/
  | object (done : List (Option String × Json)) (name : Option String)
deriving Inhabited

/-- What may come next. -/
inductive Place where
  /-- A value. -/
  | value
  /-- A value, or the end of the array that has just begun. -/
  | element
  /-- A name, or the end of the object that has just begun. -/
  | member
  /-- A name. -/
  | name
  | colon
  /-- A comma or the end of the innermost container; nothing if there is none. -/
  | rest
deriving DecidableEq, Repr, Inhabited

/-- A value part way through. -/
structure Builder where
  place : Place := .value
  stack : List Open := []
  result : Option Json := none
deriving Inhabited

namespace Builder

/-- An object with the given members, in reverse; one whose names are not all texts has no value. -/
def objectOf (done : List (Option String × Json)) : Json :=
  match done.reverse.mapM fun (name, v) => name.map (·, v) with
  | some members => .object members
  | none => .unreadable

def put (b : Builder) (v : Json) : Builder :=
  match b.stack with
  | [] => { b with place := .rest, result := some v }
  | .array done :: outer => { b with place := .rest, stack := .array (v :: done) :: outer }
  | .object done name :: outer =>
    { b with place := .rest, stack := .object ((name, v) :: done) none :: outer }

def closeArray? (b : Builder) : Option Builder :=
  match b.stack with
  | .array done :: outer => some ({ b with stack := outer }.put (.array done.reverse))
  | _ => none

def closeObject? (b : Builder) : Option Builder :=
  match b.stack with
  | .object done _ :: outer => some ({ b with stack := outer }.put (objectOf done))
  | _ => none

def name? (b : Builder) (name : Option String) : Option Builder :=
  match b.stack with
  | .object done _ :: outer =>
    some { b with place := .colon, stack := .object done name :: outer }
  | _ => none

def begin? (b : Builder) : Token → Option Builder
  | .openArray => some { b with place := .element, stack := .array [] :: b.stack }
  | .openObject => some { b with place := .member, stack := .object [] none :: b.stack }
  | .text s => some (b.put ((s.map .text).getD .unreadable))
  | .scalar v => some (b.put v)
  | _ => none

def step? (b : Builder) (t : Token) : Option Builder :=
  match b.place, t with
  | .value, t => b.begin? t
  | .element, .closeArray => b.closeArray?
  | .element, t => b.begin? t
  | .member, .closeObject => b.closeObject?
  | .member, .text s => b.name? s
  | .name, .text s => b.name? s
  | .colon, .colon => some { b with place := .value }
  | .rest, .comma =>
    match b.stack with
    | [] => none
    | .array _ :: _ => some { b with place := .value }
    | .object _ _ :: _ => some { b with place := .name }
  | .rest, .closeArray => b.closeArray?
  | .rest, .closeObject => b.closeObject?
  | _, _ => none

end Builder

/-! ### Tokens from characters -/

/-- Where a quoted text stands. -/
inductive Quoted where
  | plain
  | escaped
  /-- Within four digits: how many are still to come, and the value of those before. -/
  | digits (missing value : Nat)
deriving DecidableEq, Repr, Inhabited

/-- Where the reader stands between two characters. -/
inductive Mode where
  | between
  /-- In a literal: the characters still to come. -/
  | word (missing : List Char) (value : Json)
  | numeral (n : Numeral)
  /-- In quotes: the UTF-16 units and characters so far, in reverse. -/
  | quoted (place : Quoted) (units : List Nat)
deriving Inhabited

/-- Joins surrogate pairs; `none` if one lacks its partner. -/
def joinSurrogates : List Nat → Option (List Char)
  | [] => some []
  | unit :: rest =>
    if 0xD800 ≤ unit ∧ unit < 0xDC00 then
      match rest with
      | second :: rest =>
        if 0xDC00 ≤ second ∧ second < 0xE000 then
          (Char.ofNat (0x10000 + (unit - 0xD800) * 0x400 + (second - 0xDC00)) :: ·) <$>
            joinSurrogates rest
        else none
      | [] => none
    else if 0xDC00 ≤ unit ∧ unit < 0xE000 then none
    else (Char.ofNat unit :: ·) <$> joinSurrogates rest

def textOf? (units : List Nat) : Option String :=
  (joinSurrogates units.reverse).map String.ofList

/-- A reader: what is built so far, and where it stands in a token. -/
structure Reader where
  builder : Builder := {}
  mode : Mode := .between
deriving Inhabited

namespace Reader

def isSpace (c : Char) : Bool := c = ' ' || c = '\t' || c = '\n' || c = '\r'

/-- The character for which a letter after a backslash stands. -/
def escape? (c : Char) : Option Nat :=
  if c = '"' ∨ c = '\\' ∨ c = '/' then some c.toNat
  else if c = 'b' then some 8
  else if c = 'f' then some 12
  else if c = 'n' then some 10
  else if c = 'r' then some 13
  else if c = 't' then some 9
  else none

def emit? (r : Reader) (t : Token) : Option Reader :=
  (r.builder.step? t).map fun b => { builder := b, mode := .between }

def between? (r : Reader) (c : Char) : Option Reader :=
  if isSpace c then some { r with mode := .between }
  else if c = '[' then r.emit? .openArray
  else if c = ']' then r.emit? .closeArray
  else if c = '\x7b' then r.emit? .openObject
  else if c = '\x7d' then r.emit? .closeObject
  else if c = ':' then r.emit? .colon
  else if c = ',' then r.emit? .comma
  else if c = '"' then some { r with mode := .quoted .plain [] }
  else if c = 't' then some { r with mode := .word ['r', 'u', 'e'] (.bool true) }
  else if c = 'f' then some { r with mode := .word ['a', 'l', 's', 'e'] (.bool false) }
  else if c = 'n' then some { r with mode := .word ['u', 'l', 'l'] .null }
  else (Numeral.start? c).map fun n => { r with mode := .numeral n }

def endNumeral? (r : Reader) (n : Numeral) : Option Reader :=
  if n.stage.isFinal then
    r.emit? (.scalar (match n.value? with
      | some value => .number value
      | none => .unreadable))
  else none

def quoted? (r : Reader) (units : List Nat) (c : Char) : Quoted → Option Reader
  | .plain =>
    if c = '"' then r.emit? (.text (textOf? units))
    else if c = '\\' then some { r with mode := .quoted .escaped units }
    else if c.toNat < 32 then none
    else some { r with mode := .quoted .plain (c.toNat :: units) }
  | .escaped =>
    if c = 'u' then some { r with mode := .quoted (.digits 4 0) units }
    else (escape? c).map fun unit => { r with mode := .quoted .plain (unit :: units) }
  | .digits missing value => do
    let d ← Hexadecimal.value? c
    let value := 16 * value + d
    if missing ≤ 1 then return { r with mode := .quoted .plain (value :: units) }
    else return { r with mode := .quoted (.digits (missing - 1) value) units }

def step? (r : Reader) (c : Char) : Option Reader :=
  match r.mode with
  | .between => r.between? c
  | .word [] v => do (← r.emit? (.scalar v)).between? c
  | .word (expected :: missing) v =>
    if c = expected then
      if missing.isEmpty then r.emit? (.scalar v) else some { r with mode := .word missing v }
    else none
  | .numeral n =>
    match n.next? c with
    | some n => some { r with mode := .numeral n }
    | none => do (← r.endNumeral? n).between? c
  | .quoted place units => r.quoted? units c place

def finish? (r : Reader) : Option Json := do
  let r ← match r.mode with
    | .between => some r
    | .numeral n => r.endNumeral? n
    | _ => none
  if r.builder.stack.isEmpty then r.builder.result else none

end Reader

def ofText? (text : String) : Option Json := do
  (← text.toList.foldlM Reader.step? ({} : Reader)).finish?

end Shdlc.Json
