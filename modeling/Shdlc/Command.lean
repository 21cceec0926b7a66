import Shdlc.Frame.Envelope
import Shdlc.Error
import Shdlc.Version
/-! Commands: what is asked of a device, how long it may take, and what its answer means. -/
namespace Shdlc

/-- A command whose answer is an `α`. Times are in milliseconds. -/
structure Command (α : Type) where
  id : UInt8
  payload : Bytes
  /-- How long the device may take to respond. -/
  timeout : Nat
  /-- The fewest bytes of an answer. -/
  least : Nat := 0
  /-- The most bytes of an answer. -/
  most : Nat := Frame.maxData
  /-- How long the device is busy after it has responded. -/
  settling : Nat := 0
  interpret : Bytes → Except Error α

namespace Command

variable {α : Type}

/-- Whether an answer has one of the lengths that the command allows. -/
def checkLength (c : Command α) (data : Bytes) : Except Error Unit :=
  if c.least ≤ data.length ∧ data.length ≤ c.most then .ok ()
  else .error (.response (.answerLength c.least c.most data.length) (some data))

/-- A command of any kind; its answer is handed on as it is, if it has any bytes. -/
def raw (id : UInt8) (payload : Bytes) (timeout : Nat) : Command (Option Bytes) where
  id := id
  payload := payload
  timeout := timeout
  interpret data := .ok (if data.isEmpty then none else some data)

end Command

namespace Answer

/-- The refusal of an answer that is not of the one length it can have. -/
private def wrongSize (expected : Nat) (data : Bytes) : Error :=
  .response (.fixedLength expected data.length) (some data)

def nothing (_ : Bytes) : Except Error Unit := .ok ()

def byte : Bytes → Except Error UInt8
  | [b] => .ok b
  | data => .error (wrongSize 1 data)

def word16 : Bytes → Except Error UInt16
  | [a, b] => .ok (Bytes.bigEndian [a, b]).toUInt16
  | data => .error (wrongSize 2 data)

def word32 : Bytes → Except Error UInt32
  | [a, b, c, d] => .ok (Bytes.bigEndian [a, b, c, d]).toUInt32
  | data => .error (wrongSize 4 data)

def withoutNuls (text : String) : String :=
  String.ofList (text.toList.reverse.dropWhile (· == '\x00')).reverse

/-- A text in UTF-8, filled up with NULs. -/
def text (data : Bytes) : Except Error String :=
  match String.fromUTF8? ⟨data.toArray⟩ with
  | some s => .ok (withoutNuls s)
  | none => .error (.response .notText (some data))

def version (data : Bytes) : Except Error Version :=
  match Version.ofBytes? data with
  | some v => .ok v
  | none => .error (wrongSize 7 data)

def errorState : Bytes → Except Error ErrorState
  | [a, b, c, d, code] => .ok ⟨(Bytes.bigEndian [a, b, c, d]).toUInt32, code⟩
  | data => .error (wrongSize 5 data)

end Answer

end Shdlc
