import Shdlc.CommandLine.Program
import Shdlc.Files
import Std.Async.DNS
import Std.Async.TCP
import Std.Async.Timer
/-!
The program at work. A run is a function of what it meets outside, which becomes known only while it
goes on. So a run is played: its trace is done up to the first effect whose outcome is not known
yet, the outcome is awaited, and the run that meets it is played on from there.
-/
namespace Shdlc

open CommandLine Std.Async Std.Net

def systemError : IO.Error → SystemError
  | .noFileOrDirectory _ code details | .noSuchThing _ code details => told .notFound code details
  | .permissionDenied _ code details => told .permissionDenied code details
  | .inappropriateType _ code details => told .isDirectory code details
  | .invalidArgument _ code details => told .invalidInput code details
  | .resourceVanished code details => told .brokenPipe code details
  | .timeExpired code details => told .timedOut code details
  | .otherError code details => told .other code details
  | e => ⟨.other, e.toString⟩
where
  /-- The error with its number, which may be given with either sign. -/
  told (kind : SystemError.Kind) (code : UInt32) (details : String) : SystemError :=
    let number := code.toInt32.toInt.natAbs
    match PathFault.ofNumber? number with
    | some fault => fault.fileError
    | none => ⟨kind, details.capitalize ++ " (os error " ++ toString number ++ ")"⟩

/-- A line that is open. -/
structure Line where
  send : ByteArray → IO Unit
  /-- What comes next within so many milliseconds, if anything comes. -/
  receive : Nat → IO (Option Arrival)

namespace Line

def within (milliseconds : Nat) (work : Async Unit) : Async Unit :=
  Async.race work do
    sleep (.ofNat milliseconds)
    throw (.timeExpired 110 "Connection timed out")

def ofTcp (p : TcpPort) : IO Line := Async.block do
  let addresses : Array IPAddr ← DNS.getAddrInfo p.host (toString p.number.toNat)
  let some address := addresses[0]? | throw (.noSuchThing none 0 "no address")
  let socket ← TCP.Socket.Client.mk
  within p.socketTimeout <| socket.connect <| match address with
    | .v4 address => .v4 ⟨address, p.number⟩
    | .v6 address => .v6 ⟨address, p.number⟩
  return {
    send := fun bytes => (within p.socketTimeout (socket.send bytes)).block
    receive := fun milliseconds => Async.block do
      let timer ← Sleep.mk (.ofNat milliseconds)
      Selectable.one #[
        .case (socket.recvSelector 1024) fun
          | some bytes => return some (.bytes bytes.toList)
          | none => return some .closed,
        .case timer.selector fun _ => return none] }

/-- Opens a serial port. The system must have set it up: the bitrate, no treatment of the bytes, and
that reading returns when nothing comes. -/
def ofSerial (p : SerialPort) : IO (Except SystemError Line) := do
  let line ← IO.FS.Handle.mk p.name .readWrite
  unless ← line.isTty do return .error .noLine
  return .ok {
    send := fun bytes => do
      line.write bytes
      line.flush
    receive := fun _ => do
      let bytes ← line.read 1
      if bytes.isEmpty then
        IO.sleep 1
        return none
      return some (.bytes bytes.toList) }

def ofPort : Port → IO (Except SystemError (Option Line))
  | .memory _ => return .ok none
  | .tcp p => try return .ok (← ofTcp p) catch e => return .error (systemError e)
  | .serial p =>
    try return (← ofSerial p).map some
    catch e =>
      let e := systemError e
      return .error (((PathFault.ofKind? e.kind).map (·.lineError)).getD e)

/-- Gathers what arrives until it is a frame or cannot become one, or until a time is reached. -/
partial def gather (line : Line) (deadline : Nat) (buffer : Frame.Buffer) : IO (List Arrival) := do
  let now ← IO.monoMsNow
  if deadline ≤ now then return []
  match ← line.receive (deadline - now) with
  | none => gather line deadline buffer
  | some (.bytes bytes) =>
    let buffer := buffer.append bytes
    match buffer.check with
    | .ok false => return .bytes bytes :: (← gather line deadline buffer)
    | _ => return [.bytes bytes]
  | some arrival => return [arrival]

partial def drain (line : Line) : IO Unit := do
  if let some (.bytes _) ← line.receive 0 then drain line

/-- Sends a frame and gathers what arrives within so many microseconds. If it cannot be sent, that
shows as a failure of the first read. -/
def exchange (line : Line) (raw : Bytes) (patience : Nat) : IO (List Arrival) := do
  try
    drain line
    line.send ⟨raw.toArray⟩
    line.gather ((← IO.monoMsNow) + patience / 1000) {}
  catch e => return [.failure (systemError e)]

end Line

/-- What has become known of the outside while a run is played. -/
structure Known where
  /-- Why the line could not be opened, if it could not. -/
  opening : Option SystemError := none
  /-- What arrived after each request. -/
  arrivals : Array (List Arrival) := #[]

/-- What a run meets, as far as it is known. A line keeps the bitrate that it was opened with. -/
def Known.surroundings (k : Known) (bitrate : UInt32) : Surroundings where
  farSide requests := k.arrivals.getD (requests.size - 1) []
  opening _ := k.opening
  retuning _ rate := if rate = bitrate then none else some (.ofKind .unsupported)

/-- A run that is played. -/
structure Stage where
  arguments : Arguments
  file : List Log.Note → String → Except SystemError Bytes
  /-- Writes a note to the log. -/
  log : Log.Note → IO Unit

def Stage.perform (s : Stage) : Effect → IO Unit
  | .output line => IO.println line
  | .note n => s.log n
  | .pause milliseconds => IO.sleep milliseconds.toUInt32
  | _ => return ()

/-- Plays the run that meets what is known. The first `done` effects of its trace have been done;
they stay the same when more becomes known. -/
partial def Stage.play (s : Stage) (known : Known) (line : Option Line) (done : Nat) :
    IO Completion := do
  let surroundings := known.surroundings s.arguments.baudrate
  let completion := Completion.ofArguments { surroundings, file := s.file } s.arguments
  let mut done := done
  for effect in completion.trace.drop done do
    s.perform effect
    done := done + 1
    match effect with
    | .opening port =>
      match ← Line.ofPort port with
      | .ok line => return ← s.play known line done
      | .error e => return ← s.play { known with opening := some e } none done
    | .request raw _ patience =>
      let arrivals ← match line with
        | some line => line.exchange raw patience
        | none => pure []
      return ← s.play { known with arrivals := known.arrivals.push arrivals } line done
    | _ => pure ()
  return completion

def readFile (path : String) : IO (Except SystemError Bytes) := do
  try return .ok (← IO.FS.readBinFile path).toList
  catch e => return .error (systemError e)

def imagePath? (a : Arguments) : Option String :=
  match a.task with
  | .inspect image | .update image _ => some image.path
  | _ => none

def appendText (path text : String) : IO Unit :=
  IO.FS.withFile path .append fun file => file.putStr text

def isSameFile (path other : String) : IO Bool := do
  try return (← IO.FS.realPath path) == (← IO.FS.realPath other)
  catch _ => return false

def isAppendable (path : String) : IO Bool := do
  try
    let _ ← IO.FS.Handle.mk path .append
    return true
  catch _ => return false

def usageText : String :=
  "usage: shdlc [--serial NAME | --tcp HOST:PORT] [--address N] [--json] COMMAND\ncommands: " ++
    " ".intercalate (Arguments.grammar.subcommands.map (·.name))

def answerUsage (u : Usage) : IO UInt32 := do
  match u with
  | .displayVersion => IO.println versionText
  | .displayHelp => IO.println usageText
  | _ => IO.eprintln usageText
  return u.exit

def runArguments (environment : String → Option String) (a : Arguments) : IO UInt32 := do
  let canAppend ← match Logging.wanted? environment with
    | some path => isAppendable path
    | none => pure false
  let logging := Logging.ofEnvironment environment fun _ => canAppend
  let write (text : String) : IO Unit :=
    match logging.path with
    | some path => appendText path text
    | none => IO.eprint text
  let image := imagePath? a
  let content ← match image with
    | some path => readFile path
    | none => pure (.ok [])
  let isShared ← match logging.path, image with
    | some log, some path => isSameFile log path
    | _, _ => pure false
  let file (notes : List Log.Note) (_ : String) : Except SystemError Bytes :=
    if isShared then content.map (· ++ (logging.text notes).toUTF8.toList) else content
  let stage : Stage := { arguments := a, file, log := fun n => write (logging.text [n]) }
  let completion ← stage.play {} none 0
  completion.complaint.forM IO.eprintln
  return completion.exit

end Shdlc

def main (words : List String) : IO UInt32 := do
  let names := ["SHDLC_SERIAL", "SHDLC_TCP", "SHDLC_LOG_PATH", "RUST_LOG"]
  let values ← names.mapM fun name => return (name, ← IO.getEnv name)
  let environment (name : String) : Option String := (values.lookup name).join
  match Shdlc.CommandLine.Arguments.ofWords environment words with
  | .error u => Shdlc.answerUsage u
  | .ok a => Shdlc.runArguments environment a
