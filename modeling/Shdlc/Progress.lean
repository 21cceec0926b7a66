import Shdlc.Json.Members
/-!
Progress of a firmware update: the events it emits and what is known after any number of them.
-/
namespace Shdlc

/-- A percentage brought into 0 to 100; what is no number counts as 0. -/
def clampPercent (x : Double) : Double :=
  if x.isNaN then Double.zero
  else if x.lt Double.zero then Double.zero
  else if Double.hundred.lt x then Double.hundred
  else x

/-- What an update tells a listener. -/
inductive UpdateEvent where
  /-- The step that begins, in words. -/
  | status (text : String)
  /-- How much of the whole is done, in percent. -/
  | progress (percent : Double)
deriving DecidableEq, Repr, Inhabited

namespace UpdateEvent

/-- The event of a percentage, brought into its range. -/
def ofPercent (x : Double) : UpdateEvent := .progress (clampPercent x)

def toJson : UpdateEvent → Json
  | .status text => .object [("kind", .text "status"), ("value", .text text)]
  | .progress percent => .object [("kind", .text "progress"), ("value", .ofDouble percent)]

def ofKind? (kind : String) (value : Json) : Option UpdateEvent :=
  match kind with
  | "status" => value.text?.map .status
  | "progress" => value.double?.map .progress
  | _ => none

/-- The kind that a value names: a text, or an object with the kind for its only member and nothing
behind it. -/
def kind? : Json → Option String
  | .text kind => some kind
  | .object [(kind, .null)] => some kind
  | _ => none

/-- Reads an event. In an array the kind is a text. -/
def ofJson? : Json → Option UpdateEvent
  | .array [.text kind, value] => ofKind? kind value
  | .object members => do
    let kind ← (← Json.member? members "kind")
    let value ← (← Json.member? members "value")
    ofKind? (← kind? kind) value
  | _ => none

end UpdateEvent

/-- What is known of an update after some of its events. -/
structure UpdateSnapshot where
  status : Option String := none
  percent : Double := Double.zero
  events : Nat := 0
deriving DecidableEq, Repr, Inhabited

namespace UpdateSnapshot

def apply (s : UpdateSnapshot) : UpdateEvent → UpdateSnapshot
  | .status text => { s with status := some text, events := s.events + 1 }
  | .progress percent => { s with percent := clampPercent percent, events := s.events + 1 }

def ofEvents (events : List UpdateEvent) : UpdateSnapshot := events.foldl apply {}

def isFinished (s : UpdateSnapshot) : Bool := !s.percent.isNaN && !s.percent.lt Double.hundred

def toJson (s : UpdateSnapshot) : Json :=
  .object [("status", (s.status.map .text).getD .null), ("percent", .ofDouble s.percent),
    ("events", .ofNat s.events)]

def ofJson? (v : Json) : Option UpdateSnapshot :=
  match v.fields? ["status", "percent", "events"] with
  | some [status, some percent, some events] => do
    let status ← match status with
      | none | some .null => some none
      | some value => value.text?.map some
    return ⟨status, ← percent.double?, ← events.natural? 0xFFFFFFFFFFFFFFFF⟩
  | _ => none

end UpdateSnapshot

end Shdlc
