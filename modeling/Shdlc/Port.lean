import Shdlc.FarSide
/-!
Ports, through which frames are exchanged: one in memory, one over TCP and a serial one. A port
says what it is, what it needs before it sends, and how it takes part in sending and receiving.
-/
namespace Shdlc

/-- A port in memory. It has a bitrate or not, and exchanges frames whether it is open or not. Like
the other ports it is a port of bytes: a request is encoded, so one that is too long for a frame is
refused here too, and a response is received from bytes in reads. It is not a port to which requests
are handed over as they are and which gives back responses that never were bytes. -/
structure MemoryPort where
  bitrate : Option UInt32
  isOpen : Bool := true
deriving DecidableEq, Repr

/-- A port over TCP, for instance to a serial device server. Times are in milliseconds. -/
structure TcpPort where
  host : String
  number : UInt16
  /-- How long connecting and sending may take. -/
  socketTimeout : Nat := 5000
  isOpen : Bool := false
  /-- Bytes that have come and not been read. -/
  waiting : Bytes := []
deriving DecidableEq, Repr

namespace TcpPort

/-- The most bytes that are thrown away at once. -/
def discardSize : Nat := 256

/-- A read of at most `most` bytes that waits for none: what it brings, if anything has come, and
the port after it. -/
def readWaiting? (most : Nat) (p : TcpPort) : Option (Bytes × TcpPort) :=
  if p.waiting.isEmpty then none
  else some (p.waiting.take most, { p with waiting := p.waiting.drop most })

theorem length_waiting_lt_of_readWaiting? {p next : TcpPort} {piece : Bytes}
    (h : p.readWaiting? discardSize = some (piece, next)) :
    next.waiting.length < p.waiting.length := by
  unfold readWaiting? at h
  split at h
  · cases h
  · next hw =>
    cases h
    have hpos : 0 < p.waiting.length := List.length_pos_iff.2 (by simpa using hw)
    simp only [List.length_drop, discardSize]
    omega

/-- Reads until nothing has come that was not read: what is noted of each read, and the port
afterwards. -/
def discard (p : TcpPort) : List Log.Note × TcpPort :=
  match h : p.readWaiting? discardSize with
  | none => ([], p)
  | some (piece, next) =>
    have := length_waiting_lt_of_readWaiting? h
    let (notes, cleared) := next.discard
    (.tcpDiscarded piece.length :: notes, cleared)
termination_by p.waiting.length

/-- However much has come, all of it is thrown away, and nothing else changes. -/
theorem discard_snd (p : TcpPort) : p.discard.2 = { p with waiting := [] } := by
  fun_induction discard p with
  | case1 p h =>
    unfold readWaiting? at h
    split at h
    · next hw =>
      obtain ⟨host, number, socketTimeout, isOpen, waiting⟩ := p
      obtain rfl : waiting = [] := List.isEmpty_iff.1 hw
      rfl
    · cases h
  | case2 p piece next h _ notes cleared hd ih =>
    unfold readWaiting? at h
    split at h
    · cases h
    · cases h
      rw [hd] at ih
      exact ih

end TcpPort

/-- A serial port. Times are in milliseconds. -/
structure SerialPort where
  name : String
  bitrate : UInt32
  /-- What adapters may add to the time in which a device responds. -/
  extraTime : Nat := 100
  isOpen : Bool := false
  /-- Bytes that have come and not been read. -/
  waiting : Bytes := []
deriving DecidableEq, Repr

/-- A port of any kind. -/
inductive Port where
  | memory (port : MemoryPort)
  | tcp (port : TcpPort)
  | serial (port : SerialPort)
deriving DecidableEq, Repr

namespace Port

def description : Port → String
  | .memory _ => "mock"
  | .tcp p => p.host ++ ":" ++ toString p.number.toNat
  | .serial p => p.name ++ "@" ++ toString p.bitrate.toNat

/-- The bitrate, of ports that have one. -/
def bitrate? : Port → Option UInt32
  | .memory p => p.bitrate
  | .tcp _ => none
  | .serial p => some p.bitrate

/-- The port at another bitrate; nothing changes where there is none. -/
def withBitrate (rate : UInt32) : Port → Port
  | .memory p => .memory { p with bitrate := p.bitrate.map fun _ => rate }
  | .tcp p => .tcp p
  | .serial p => .serial { p with bitrate := rate }

def isOpen : Port → Bool
  | .memory p => p.isOpen
  | .tcp p => p.isOpen
  | .serial p => p.isOpen

/-- The port, open or closed. What was waiting is gone in either case. -/
def withOpen (isOpen : Bool) : Port → Port
  | .memory p => .memory { p with isOpen }
  | .tcp p => .tcp { p with isOpen, waiting := [] }
  | .serial p => .serial { p with isOpen, waiting := [] }

/-- Whether the port has a line that must be opened before it is used. -/
def hasLine : Port → Bool
  | .memory _ => false
  | .tcp _ | .serial _ => true

/-- Why the port cannot send, if it cannot. -/
def refusal? : Port → Option SystemError
  | .memory _ => none
  | .tcp p =>
    if p.isOpen then none
    else some ⟨.notConnected, "TCP port " ++ description (.tcp p) ++ " is not open"⟩
  | .serial p =>
    if p.isOpen then none else some ⟨.notConnected, "serial port '" ++ p.name ++ "' is not open"⟩

def waiting : Port → Bytes
  | .memory _ => []
  | .tcp p => p.waiting
  | .serial p => p.waiting

/-- The port with these bytes to be read; a port in memory keeps none. -/
def withWaiting (waiting : Bytes) : Port → Port
  | .memory p => .memory p
  | .tcp p => .tcp { p with waiting }
  | .serial p => .serial { p with waiting }

/-- Throws away what is waiting: what the port notes of that, and the port afterwards. A serial port
has the system do it. -/
def discard : Port → List Log.Note × Port
  | .memory p => ([], .memory p)
  | .tcp p => p.discard.map id .tcp
  | .serial p => ([], .serial { p with waiting := [] })

/-- What the port notes when it sends `raw`. -/
def sendingNotes (raw : Bytes) : Port → List Log.Note
  | .memory _ => []
  | .tcp _ => [.tcpSending raw]
  | .serial _ => [.serialSending raw]

@[simp] theorem withWaiting_withWaiting (p : Port) (x y : Bytes) :
    (p.withWaiting x).withWaiting y = p.withWaiting y := by
  cases p <;> rfl

/-- After that nothing is waiting, and the port is the same otherwise. -/
theorem discard_snd (p : Port) : p.discard.2 = p.withWaiting [] := by
  cases p with
  | memory p => rfl
  | tcp p => exact congrArg Port.tcp p.discard_snd
  | serial p => rfl

/-- Milliseconds by which a response may come later than the device promises. -/
def allowance : Port → Nat
  | .serial p => p.extraTime
  | _ => 0

/-- What a reader meets when the far side ends the connection. -/
def hangUp : Port → SystemError
  | .memory _ => .ofKind .unexpectedEnd
  | .tcp _ => .closedByPeer
  | .serial _ => ⟨.brokenPipe, "Broken pipe"⟩

def openingNotes : Port → List Log.Note
  | .memory _ => []
  | .tcp p => [.tcpOpening (description (.tcp p))]
  | .serial p => [.serialOpening p.name p.bitrate]

def closingNotes : Port → List Log.Note
  | .memory _ => []
  | .tcp p => [.tcpClosed (description (.tcp p))]
  | .serial p => [.serialClosed p.name]

/-- The milliseconds that can be set for the port: how long connecting and sending may take, or by
how much a response may be late. -/
def extraTime? : Port → Option Nat
  | .memory _ => none
  | .tcp p => some p.socketTimeout
  | .serial p => some p.extraTime

/-- The port with other milliseconds for what `extraTime?` tells. -/
def withExtraTime (milliseconds : Nat) : Port → Port
  | .memory p => .memory p
  | .tcp p => .tcp { p with socketTimeout := milliseconds }
  | .serial p => .serial { p with extraTime := milliseconds }

end Port

end Shdlc
