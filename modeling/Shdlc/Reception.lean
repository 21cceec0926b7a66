import Shdlc.Frame.Response
import Shdlc.Log.Note
/-!
Receiving a response: bytes are read from a line, in pieces of any size, until they hold a frame or
the time is over. What the reads will bring is given as data.
-/
namespace Shdlc

/-- What a read brings. -/
inductive Read.Outcome where
  | bytes (bytes : Bytes)
  | failure (error : SystemError)
deriving DecidableEq, Repr

/-- A read from a line: how many microseconds it takes, and what it brings. -/
structure Read where
  delay : Nat := 0
  outcome : Read.Outcome
deriving DecidableEq, Repr

namespace Read

def capacity : Nat := 1024

def delivered (r : Read) : Bytes :=
  match r.outcome with
  | .bytes bytes => bytes
  | .failure _ => []

end Read

/-- Whether an error says only that nothing has come yet. -/
def SystemError.isPassing (e : SystemError) : Bool :=
  match e.kind with
  | .timedOut | .wouldBlock | .interrupted => true
  | _ => false

/-- How receiving went. -/
structure Reception where
  result : Except Error Response
  /-- For each read, in order, the microseconds that were left when it began. -/
  offered : List Nat := []
  notes : List Log.Note := []
  /-- Reads that were not needed. -/
  unread : List Read := []

namespace Reception

/-- The reception that begins with a read at which `left` microseconds were left. -/
def after (left : Nat) (r : Reception) : Reception := { r with offered := left :: r.offered }

/-- The reception that ends with a complete frame in the buffer. -/
def ofComplete (buffer : Frame.Buffer) (unread : List Read) : Reception :=
  let result := buffer.interpret
  let complaint := match result with
    | .ok _ => []
    | .error _ => [.flawed buffer.bytes]
  { result, notes := .received buffer.bytes :: complaint, unread }

/-- Receives with `left` microseconds left and some bytes in the buffer already. No read begins
when the time is over; a read that takes longer still counts. When no reads are given any more,
nothing comes. -/
def collect (left : Nat) (buffer : Frame.Buffer) : List Read → Reception
  | [] => { result := .error .timeout, offered := if left = 0 then [] else [left] }
  | read :: rest =>
    if left = 0 then { result := .error .timeout, unread := read :: rest }
    else after left <| match read.outcome with
      | .failure e =>
        if e.isPassing then collect (left - read.delay) buffer rest
        else { result := .error (.system e), unread := rest }
      | .bytes [] => collect (left - read.delay) buffer rest
      | .bytes (b :: bs) =>
        let filled := buffer.append (b :: bs)
        match filled.check with
        | .error e => { result := .error e, notes := [.flawed filled.bytes], unread := rest }
        | .ok false => collect (left - read.delay) filled rest
        | .ok true => ofComplete filled rest

end Reception

/-- Receives a response within `timeout` microseconds. -/
def receive (timeout : Nat) (reads : List Read) : Reception := Reception.collect timeout {} reads

end Shdlc
