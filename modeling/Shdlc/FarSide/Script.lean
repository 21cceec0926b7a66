import Shdlc.FarSide
import Shdlc.Frame.Request
/-! Far sides that follow a script: what to answer in turn, then what to answer to which request. -/
namespace Shdlc

/-- An answer in a script. -/
inductive Reply where
  /-- A response; it comes from the address and answers the command of the request unless others
  are given. -/
  | frame (state : UInt8) (data : Bytes) (address command : Option UInt8)
  /-- Anything at all. -/
  | arrivals (arrivals : List Arrival)
deriving DecidableEq, Repr

namespace Reply

def silent : Reply := .arrivals []

/-- What arrives as the answer to `request`. -/
def toArrivals (request : Request) : Reply → List Arrival
  | .arrivals all => all
  | .frame state data address command =>
    let response : Response :=
      ⟨address.getD request.address, command.getD request.command, state, data⟩
    match response.encode with
    | .ok raw => [.bytes raw]
    | .error _ => []

end Reply

/-- An answer for all requests with some command or data. -/
structure Script.Rule where
  command : Option UInt8
  data : Option Bytes
  reply : Reply
deriving DecidableEq, Repr

/-- Whether the rule is one for `request`. -/
def Script.Rule.applies (rule : Script.Rule) (request : Request) : Bool :=
  rule.command.all (· == request.command) && rule.data.all (· == request.data)

/-- Answers for the first requests, in turn, and rules for all that follow. -/
structure Script where
  queue : Array Reply := #[]
  rules : List Script.Rule := []
deriving DecidableEq, Repr

namespace Script

/-- The answer to the request that comes after `earlier` others: the next of the queue, else that of
the first rule for it, else silence. -/
def reply (script : Script) (earlier : Nat) (request : Request) : Reply :=
  match script.queue[earlier]? with
  | some reply => reply
  | none => ((script.rules.find? (·.applies request)).map (·.reply)).getD .silent

def farSide (script : Script) : FarSide := fun requests =>
  match requests.back? with
  | none => []
  | some raw =>
    match Request.decode raw with
    | .ok request => (script.reply (requests.size - 1) request).toArrivals request
    | .error _ => []

end Script

end Shdlc
