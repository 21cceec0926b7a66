import Shdlc.Port
import Shdlc.Command
import Shdlc.Frame.Request
import Shdlc.Progress
/-!
A bus: a port, what it meets, and what has been done through it. An `Action` on a bus may fail; what
it has done until then stays done. The trace says in which order things were done.
-/
namespace Shdlc

/-- What is done through a bus, or told while it is done. -/
inductive Effect where
  /-- The line of a port is opened. -/
  | opening (port : Port)
  /-- A frame is sent, at the bitrate of the port if it has one, and a response is waited for so
  many microseconds. -/
  | request (raw : Bytes) (bitrate : Option UInt32) (patience : Nat)
  /-- The port changes to a bitrate, or is told to keep it. -/
  | bitrate (rate : UInt32)
  /-- So many milliseconds are let go by. -/
  | pause (milliseconds : Nat)
  | note (note : Log.Note)
  /-- The listener of an update hears of an event. -/
  | event (event : UpdateEvent)
  | output (line : String)
deriving DecidableEq, Repr

/-- What a port meets: the far side of its line, and what the system lets it do. On a line that is
open, throwing away what is waiting, writing and flushing succeed; what would follow if one of them
failed is not told. A far side whose answer begins with a failure that is not a passing one ends an
exchange in the same way, with the error of the system, once the frame counts as sent. -/
structure Surroundings where
  farSide : FarSide := .silent
  /-- Why a line cannot be opened, if it cannot. -/
  opening : Port → Option SystemError := fun _ => none
  /-- Why the line does not take a bitrate, if it does not; the number tells the attempts before. -/
  retuning : Nat → UInt32 → Option SystemError := fun _ _ => none

/-- A port with its surroundings and its past. -/
structure Bus where
  port : Port
  surroundings : Surroundings
  /-- All frames sent so far. -/
  requests : Array Bytes := #[]
  /-- How often a bitrate was to be set. -/
  attempts : Nat := 0
  /-- Everything done so far, in order. -/
  trace : Array Effect := #[]

/-- The outcome of work as a value, so that other work can follow it in any case. -/
def attempt {ε σ α : Type} (work : EStateM ε σ α) : EStateM ε σ (Except ε α) := fun s =>
  match work s with
  | .ok a s => .ok (.ok a) s
  | .error e s => .ok (.error e) s

abbrev Action := EStateM Error Bus

namespace Bus

def record (effect : Effect) : Action Unit :=
  modify fun b => { b with trace := b.trace.push effect }

def note (n : Log.Note) : Action Unit := record (.note n)

def notes (ns : List Log.Note) : Action Unit :=
  modify fun b => { b with trace := b.trace ++ ns.map Effect.note }

def failIf (e : Option SystemError) : Action Unit :=
  match e with
  | some e => throw (.system e)
  | none => pure ()

def orFail {α : Type} : Except Error α → Action α
  | .ok a => pure a
  | .error e => throw e

def connect : Action Unit := do note (.connectionOpened (← get).port.description)

/-- Opens the port; nothing happens if it is open. -/
def openPort : Action Unit := do
  let port := (← get).port
  if !port.isOpen then
    notes port.openingNotes
    if port.hasLine then
      record (.opening port)
      failIf ((← get).surroundings.opening port)
    modify fun b => { b with port := b.port.withOpen true }

/-- Closes the port; nothing happens if it is closed. -/
def closePort : Action Unit := do
  let port := (← get).port
  if port.isOpen then
    modify fun b => { b with port := b.port.withOpen false }
    notes port.closingNotes

def bitrate : Action UInt32 := do
  let port := (← get).port
  match port.bitrate? with
  | some rate => return rate
  | none => throw (.bitrateUnsupported port.description)

/-- Changes the bitrate of the port. A line that is not open takes any. -/
def setBitrate (rate : UInt32) : Action Unit := do
  let _ ← bitrate
  let before ← getModify fun b => { b with attempts := b.attempts + 1 }
  if before.port.isOpen then failIf (before.surroundings.retuning before.attempts rate)
  modify fun b => { b with port := b.port.withBitrate rate }
  record (.bitrate rate)

/-- What the port still has to read of what came after the last request. -/
def keep (unread : List Read) : Action Unit :=
  modify fun b => { b with port := b.port.withWaiting (unread.flatMap Read.delivered) }

def push (bytes : Bytes) : Action Unit :=
  modify fun b => { b with port := b.port.withWaiting (b.port.waiting ++ bytes) }

/-- Throws away what is waiting at the port. -/
def discardWaiting : Action Unit := do
  let (discarded, port) := (← get).port.discard
  notes discarded
  modify fun b => { b with port }

/-- Sends a frame, for whose response `patience` microseconds are granted, and says in which reads
the response comes. What was waiting before is thrown away; had anything stayed, it would be read
first. None of this fails on its way to the line, see `Surroundings`. -/
def send (raw : Bytes) (patience : Nat) : Action (List Read) := do
  discardWaiting
  let port := (← get).port
  notes (port.sendingNotes raw)
  modify fun b => { b with requests := b.requests.push raw }
  record (.request raw port.bitrate? patience)
  let b ← get
  let stale := if port.waiting.isEmpty then [] else [.bytes port.waiting]
  return Arrival.reads port.hangUp (stale ++ b.surroundings.farSide b.requests)

/-- Sends a request and waits for a response; `timeout` is the time, in milliseconds, that the
device may take. A request too long for a frame is refused before anything else. -/
def transceive (address command : UInt8) (data : Bytes) (timeout : Nat) : Action Response := do
  let request ← orFail (Request.make address command data)
  let port := (← get).port
  failIf port.refusal?
  let patience := (timeout + port.allowance) * 1000
  let reads ← send request.encode patience
  let reception := receive patience reads
  keep reception.unread
  notes reception.notes
  orFail reception.result

/-- Sends a request and returns the data of the response, and whether the device reports that it is
in an error state. A response to another request is refused, and so is one with an error. -/
def exchange (address command : UInt8) (data : Bytes) (timeout : Nat) : Action (Bytes × Bool) := do
  let response ← transceive address command data timeout
  if response.address ≠ address then
    throw (.response (.foreignAddress response.address address) none)
  if response.command ≠ command then
    throw (.response (.foreignCommand response.command command) none)
  if response.reportsErrorState then note (.inErrorState address)
  if response.errorCode ≠ 0 then
    note (.returnedError address response.errorCode)
    throw (.device (.unknown response.errorCode))
  return (response.data, response.reportsErrorState)

/-- Passes on what a command makes of an answer; flawed bytes are noted. -/
def understand {α : Type} (result : Except Error α) : Action α := do
  if let .error (.response _ (some raw)) := result then note (.flawed raw)
  orFail result

/-- Executes a command, waits until the device has settled if `wait` is set, and returns the answer
and whether the device reports that it is in an error state. -/
def execute {α : Type} (address : UInt8) (command : Command α) (wait : Bool) :
    Action (α × Bool) := do
  let (data, inErrorState) ← exchange address command.id command.payload command.timeout
  if wait && command.settling ≠ 0 then record (.pause command.settling)
  understand (command.checkLength data)
  return (← understand (command.interpret data), inErrorState)

end Bus

end Shdlc
