import Shdlc.Log.Note
import Shdlc.Log.Pattern
import Shdlc.Text.Number
/-!
Filters that choose notes. A filter is a list of directives such as `warn`, `shdlc_core=debug` or
`shdlc[{events}]=info`; of those that are about a note the most specific one decides.
-/
namespace Shdlc.Log

/-- One part of a filter. -/
structure Directive where
  /-- How the targets begin that it is about; none stands for all. -/
  target : Option String := none
  /-- The name of a field that a note must have. -/
  field : Option String := none
  /-- The highest detail that it lets through. -/
  detail : Nat := Level.trace.detail
  /-- Whether it is about what happens within a named span or for some value of a field, so
  that it says nothing of single notes. -/
  inSpan : Bool := false
deriving DecidableEq, Repr

namespace Directive

/-- The detail that a word stands for: the name of a level in any case, or a number. -/
def detail? (word : List Char) : Option Nat :=
  match Text.readUnsigned 10 Text.maxWord word with
  | .ok n => if n ≤ Level.trace.detail then some n else none
  | .error _ =>
    match String.ofList (word.map Char.toLower) with
    | "" => some Level.error.detail
    | "off" => some 0
    | "error" => some Level.error.detail
    | "warn" => some Level.warn.detail
    | "info" => some Level.info.detail
    | "debug" => some Level.debug.detail
    | "trace" => some Level.trace.detail
    | _ => none

/-- Where the reader of a directive stands; numbers are the positions at which parts begin. -/
inductive Place where
  | start
  | word (start : Nat)
  | span (start : Nat)
  | field (start : Nat)
  | fields
  | target
  | level (start : Nat)
deriving DecidableEq, Repr

/-- Whether a directive may begin with a character, unless that opens a list of fields. -/
def beginsWord (c : Char) : Bool :=
  Text.isAlphanumeric c || c == '-' || c == ':' || c == '_'

/-- The characters in the first bytes of a text, if they fill so many bytes. -/
def takeBytes? : Nat → List Char → Option (List Char)
  | 0, _ => some []
  | _ + 1, [] => none
  | count + 1, c :: rest =>
    if c.utf8Size ≤ count + 1 then (c :: ·) <$> takeBytes? (count + 1 - c.utf8Size) rest else none

/-- The text without its first bytes, if those hold whole characters. -/
def dropBytes? (text : List Char) (count : Nat) : Option (List Char) :=
  (takeBytes? count text).map fun taken => text.drop taken.length

variable (text : List Char)

/-- The part of the text between two positions, if both stand between characters. -/
def part? (first last : Nat) : Option (List Char) := do
  takeBytes? (last - first) (← dropBytes? text first)

/-- Adds a field, a name that may demand a value behind a sign of equality. -/
def addField (d : Directive) (field : List Char) : Option Directive :=
  match field, field.dropWhile (· != '=') with
  | [], _ => none
  | _, [] => some { d with field := some (String.ofList field) }
  | _, _ :: rest =>
    let value := rest.takeWhile (· != '=')
    if Text.isDecimal value || isPattern value then some { d with inSpan := true } else none

def step (d : Directive) (position : Nat) : Place → Char → Option (Directive × Place)
  | .start, c =>
    if c == '[' then some (d, .span (position + 1))
    else if beginsWord c then some (d, .word position)
    else none
  | .word first, '=' => do
    return ({ d with target := String.ofList (← part? text first position) }, .level (position + 1))
  | .word first, '[' => do
    return ({ d with target := String.ofList (← part? text first position) }, .span (position + 1))
  | .word first, _ => some (d, .word first)
  | .target, '=' => some (d, .level (position + 1))
  | .target, _ => none
  | .span first, ']' => do
    let _ ← part? text first position
    return ({ d with inSpan := true }, .target)
  | .span first, '\x7b' => do
    let name ← part? text first position
    return ({ d with inSpan := d.inSpan || !name.isEmpty }, .field (position + 1))
  | .span first, _ => some (d, .span first)
  | .field first, '\x7d' => do
    return (← addField d (← part? text first position), .fields)
  | .field first, _ => some (d, .field first)
  | .fields, ']' => some (d, .target)
  | .fields, _ => none
  | .level first, _ => some (d, .level first)

def walk (d : Directive) (place : Place) (position : Nat) : List Char → Option (Directive × Place)
  | [] => some (d, place)
  | c :: rest =>
    match step text d position place c with
    | none => none
    | some (d, place) => walk d place (position + c.utf8Size) rest

/-- Reads a directive. Positions count bytes without the blanks around the text, and parts are cut
out of the text with them, so that blanks in front are not allowed for. -/
def ofText? : Option Directive := do
  match ← walk text {} .start 0 (Text.trim text) with
  | (d, .word first) =>
    let word ← dropBytes? text first
    match detail? word with
    | some detail => return { d with detail := if word.isEmpty then Level.trace.detail else detail }
    | none => return { d with target := some (String.ofList word) }
  | (d, .level first) =>
    let word ← dropBytes? text first
    if word.isEmpty then return d else return { d with detail := ← detail? word }
  | (d, .target) => some d
  | _ => none

def covers (d : Directive) (n : Note) : Bool :=
  !d.inSpan && d.target.all (fun t => n.topic.target.startsWith t) &&
    d.field.all fun name => name == "message" || n.fields.any (·.1 == name)

/-- How much a directive says of targets: nothing, or how long the beginning is. -/
def targetRank (d : Directive) : Nat := (d.target.map fun t => t.utf8ByteSize + 1).getD 0

/-- The order of directives by how specific they are: first by their targets, then by whether they
name a field. Of two that differ in neither the one with the later text goes before. -/
def order (d other : Directive) : Ordering :=
  (compareOfLessAndEq d.targetRank other.targetRank).then <|
    (compareOfLessAndEq d.field.toList.length other.field.toList.length).then <|
      (compareOfLessAndEq (d.target.getD "") (other.target.getD "")).then <|
        compareOfLessAndEq (d.field.getD "") (other.field.getD "")

end Directive

/-- A choice of notes. -/
structure Filter where
  directives : List Directive
deriving DecidableEq, Repr

namespace Filter

def upTo (level : Level) : Filter := ⟨[{ detail := level.detail }]⟩

/-- The parts of a text between commas, the empty ones left out. -/
def parts (text : List Char) : List (List Char) :=
  (go [] text).filter (!·.isEmpty)
where
  /-- Continues a part whose characters so far, the last first, are `part`. -/
  go (part : List Char) : List Char → List (List Char)
    | [] => [part.reverse]
    | ',' :: rest => part.reverse :: go [] rest
    | c :: rest => go (c :: part) rest

/-- Reads a filter; one without directives lets only errors through. -/
def ofText? (text : String) : Option Filter := do
  let directives ← (parts text.toList).mapM Directive.ofText?
  return if directives.isEmpty then upTo .error else ⟨directives⟩

/-- The filter that a variable sets: notes up to `info` if it is not set or not a filter. -/
def ofVariable (value : Option String) : Filter := (value.bind ofText?).getD (upTo .info)

/-- The directive that decides about a note: the most specific one, and of those that are about the
same notes the last. -/
def deciding? (f : Filter) (n : Note) : Option Directive :=
  (f.directives.filter (·.covers n)).foldl (fun best d =>
    match best with
    | none => some d
    | some b => some (if d.order b = .lt then b else d)) none

def admits (f : Filter) (n : Note) : Bool :=
  match f.deciding? n with
  | some d => n.level.detail ≤ d.detail
  | none => false

end Filter

end Shdlc.Log
