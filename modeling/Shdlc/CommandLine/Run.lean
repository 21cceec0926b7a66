import Shdlc.CommandLine.Arguments
import Shdlc.Text.HexBytes
import Shdlc.Update
import Shdlc.Version.Json
import Shdlc.Json.Writer
/-!
What the program does for its arguments. The record of a run is a trace of effects, which holds what
is printed and noted; a run that fails leaves the trace up to its failure.
-/
namespace Shdlc.CommandLine

/-- Why a run fails. -/
inductive Failure where
  | operation (error : Error)
  | hexBytes (error : Text.HexBytesError)
  | number (error : Text.NumberError)
  /-- A TCP address without a colon. -/
  | tcpAddress (text : String)
  | noPort
deriving DecidableEq, Repr

def Failure.message : Failure → String
  | .operation e => e.message
  | .hexBytes e => e.message
  | .number e => e.message
  | .tcpAddress text => "invalid TCP address '" ++ text ++ "', expected HOST:PORT"
  | .noPort => "no port given, use --serial or --tcp (or SHDLC_SERIAL / SHDLC_TCP)"

/-- What surrounds a run: what ports meet, and the files. -/
structure Host where
  surroundings : Surroundings
  /-- What a file holds when these notes have been taken, which may have been written to it. -/
  file : List Log.Note → String → Except SystemError Bytes

abbrev Run := EStateM Failure (Array Effect)

namespace Run

def record (effect : Effect) : Run Unit := modify fun trace => trace.push effect

def note (n : Log.Note) : Run Unit := record (.note n)

def output (line : String) : Run Unit := record (.output line)

def orFail {ε α : Type} (wrap : ε → Failure) : Except ε α → Run α
  | .ok a => pure a
  | .error e => throw (wrap e)

/-- The text in front of the last colon, and the text behind it. -/
def splitAddress? (text : String) : Option (String × String) :=
  let reversed := text.toList.reverse
  match reversed.dropWhile (· != ':') with
  | [] => none
  | _ :: host =>
    some (String.ofList host.reverse, String.ofList (reversed.takeWhile (· != ':')).reverse)

/-- The port that the arguments name; one over TCP goes before a serial one. -/
def choosePort (a : Arguments) : Except Failure Port :=
  match a.tcp, a.serial with
  | some text, _ =>
    match splitAddress? text with
    | none => .error (.tcpAddress text)
    | some (host, number) =>
      match Text.number 0xFFFF number with
      | .error e => .error (.number e)
      | .ok n => .ok (.tcp { host, number := n.toUInt16 })
  | none, some name => .ok (.serial { name, bitrate := a.baudrate })
  | none, none => .error .noPort

/-- Lets a port go: a serial one is closed. -/
def release : Action Unit := do
  match (← get).port with
  | .serial _ => Bus.closePort
  | _ => pure ()

/-- Opens a port, works at the station of the device behind it, and lets the port go. -/
def session {α : Type} (work : Station.Work α) : Station.Work α := do
  Station.onBus Bus.openPort
  Station.onBus do
    Bus.note (.usingPort (← get).port.description)
    Bus.connect
  let result ← attempt work
  Station.onBus release
  Station.onBus (Bus.orFail result)

/-- Works at the station of the device that the arguments name. -/
def withDevice {α : Type} (host : Host) (a : Arguments) (work : Station.Work α) : Run α := do
  let port ← orFail id (choosePort a)
  fun trace =>
    let bus : Bus := { port, surroundings := host.surroundings, trace }
    match session work ⟨{ address := a.address }, bus⟩ with
    | .ok result s => .ok result s.bus.trace
    | .error e s => .error (.operation e) s.bus.trace

def print (a : Arguments) (json : Json) (text : String) : Run Unit :=
  output (if a.json then json.render else text)

def lines (ls : List String) : String := "\n".intercalate ls

def single (value : Json) : Json := .object [("value", value)]

def singleNumber (n : Nat) : Json := single (.ofNat n)

/-- What a device tells of itself. -/
structure DeviceInfo where
  productType : String
  /-- Older firmware does not know it. -/
  productSubtype : Option UInt8
  productName : String
  articleCode : String
  serialNumber : String
  version : Version

namespace DeviceInfo

/-- Asks the device. That it refuses to tell the subtype is no failure. -/
def read : Station.Work DeviceInfo := do
  let productType : String ← Station.ask .getProductType
  let subtype : Except Error UInt8 ← attempt (Station.ask .getProductSubtype)
  let productSubtype ← match subtype with
    | .ok n => pure (some n)
    | .error (.device _) => pure none
    | .error e => throw e
  let productName : String ← Station.ask .getProductName
  let articleCode : String ← Station.ask .getArticleCode
  let serialNumber : String ← Station.ask .getSerialNumber
  let version : Version ← Station.ask .getVersion
  return { productType, productSubtype, productName, articleCode, serialNumber, version }

def toJson (i : DeviceInfo) : Json :=
  .object [("product_type", .text i.productType),
    ("product_subtype", (i.productSubtype.map .ofUInt8).getD .null),
    ("product_name", .text i.productName), ("article_code", .text i.articleCode),
    ("serial_number", .text i.serialNumber), ("version", i.version.toJson)]

def text (i : DeviceInfo) : String :=
  lines ["Product type:    " ++ i.productType,
    "Product subtype: " ++ ((i.productSubtype.map fun n => toString n.toNat).getD "-"),
    "Product name:    " ++ i.productName, "Article code:    " ++ i.articleCode,
    "Serial number:   " ++ i.serialNumber, "Version:         " ++ i.version.text]

end DeviceInfo

def errorStateJson (state : UInt32) (error : Option DeviceError) : Json :=
  let last : Json := match error with
    | some e => .object [("code", .ofUInt8 e.code), ("message", .text e.message)]
    | none => .null
  .object [("state", .ofNat state.toNat), ("last_error", last)]

def errorStateText (state : UInt32) (error : Option DeviceError) : String :=
  let last := match error with
    | some e => "0x" ++ Hexadecimal.ofUInt8 e.code ++ " (" ++ e.message ++ ")"
    | none => "none"
  lines ["State:      0x" ++ Hexadecimal.ofUInt32 state, "Last error: " ++ last]

def imageJson (i : Image) : Json :=
  .object [("product_type", .ofNat i.productType.toNat),
    ("bootloader_version", i.bootloaderVersion.toJson),
    ("application_version", i.applicationVersion.toJson), ("size", .ofNat i.size),
    ("checksum", .ofUInt8 i.checksum)]

def imageText (i : Image) : String :=
  lines ["Product type:        0x" ++ Hexadecimal.ofUInt32 i.productType,
    "Bootloader version:  " ++ i.bootloaderVersion.text,
    "Application version: " ++ i.applicationVersion.text,
    "Size:                " ++ toString i.size ++ " bytes",
    "Checksum:            0x" ++ Hexadecimal.ofUInt8 i.checksum]

def notes (trace : Array Effect) : List Log.Note :=
  trace.toList.filterMap fun
    | .note n => some n
    | _ => none

def loadImage (host : Host) (i : ImageArguments) : Run Image := do
  let plain : Image.Layout := { bootloader := i.bootloader, application := i.application }
  let signature ← match i.signature with
    | some text => orFail .hexBytes (Text.hexBytes text)
    | none => pure plain.signature
  let layout := { plain with signature, versionOffset := i.versionOffset.getD plain.versionOffset }
  note (.imageLoading i.path)
  let content := host.file (notes (← get)) i.path
  match Image.load layout (.file i.path content) #[] with
  | .ok image notes =>
    notes.forM note
    return image
  | .error e notes =>
    notes.forM note
    throw (.operation e)

/-- What is told of an event of an update: in JSON every event is a line; in words a status is a
line and progress is noted. -/
def tell (a : Arguments) (event : UpdateEvent) : Effect :=
  if a.json then .output event.toJson.render
  else match event with
    | .status text => .output text
    | .progress percent => .note (.progress percent)

def events (trace : Array Effect) : List UpdateEvent :=
  trace.toList.filterMap fun
    | .event e => some e
    | _ => none

/-- The trace with each event told as it is heard. -/
def telling (a : Arguments) (trace : Array Effect) : Array Effect :=
  trace.flatMap fun
    | .event e => #[.event e, tell a e]
    | effect => #[effect]

/-- Does work while the events that it emits are told. -/
def listening {α : Type} (a : Arguments) (run : Run α) : Run α := fun before =>
  match run #[] with
  | .ok result trace => .ok result (before ++ telling a trace)
  | .error e trace => .error e (before ++ telling a trace)

def update (host : Host) (a : Arguments) (image : Image) (emergency : Bool) : Run Unit := do
  listening a (withDevice host a fun ⟨device, bus⟩ =>
    match Update.run emergency true ⟨⟨device, bus⟩, image⟩ with
    | .ok _ b => .ok () b.toStation
    | .error e b => .error e b.toStation)
  let snapshot := UpdateSnapshot.ofEvents (events (← get))
  note (.updateDone snapshot.events snapshot.isFinished)

def perform (host : Host) (a : Arguments) : Run Unit :=
  match a.task with
  | .info => do
    let info ← withDevice host a DeviceInfo.read
    print a info.toJson info.text
  | .version => do
    let version : Version ← withDevice host a (Station.ask .getVersion)
    print a version.toJson version.text
  | .errorState keep => do
    let (state, error) ← withDevice host a (Station.describedErrorState !keep)
    print a (errorStateJson state error) (errorStateText state error)
  | .uptime => do
    let seconds : UInt32 ← withDevice host a (Station.ask .getSystemUpTime)
    print a (singleNumber seconds.toNat) (toString seconds.toNat ++ " s")
  | .address none => do
    let current : UInt8 ← withDevice host a (Station.ask .getSlaveAddress)
    print a (singleNumber current.toNat) (toString current.toNat)
  | .address (some new) => do
    withDevice host a (Station.setAddress new false)
    note (.addressSet new)
  | .baudrate none => do
    let current : UInt32 ← withDevice host a (Station.ask .getBaudrate)
    print a (singleNumber current.toNat) (toString current.toNat)
  | .baudrate (some new) => do
    withDevice host a (Station.setBaudrate new false)
    note (.baudrateSet new)
  | .replyDelay none => do
    let current : UInt16 ← withDevice host a (Station.ask .getReplyDelay)
    print a (singleNumber current.toNat) (toString current.toNat ++ " us")
  | .replyDelay (some new) => do
    let _ : Unit ← withDevice host a (Station.ask (.setReplyDelay new))
    note (.replyDelaySet new)
  | .reset => do
    withDevice host a Station.reset
    note .deviceReset
  | .factoryReset => do
    withDevice host a Station.factoryReset
    note .factoryResetDone
  | .raw command data timeout => do
    let payload ← match data with
      | some text => orFail .hexBytes (Text.hexBytes text)
      | none => pure []
    let answer ← withDevice host a (Station.execute (Command.raw command payload timeout) true)
    let bytes := answer.getD []
    print a (single (.array (bytes.map .ofUInt8))) (Hexadecimal.listing bytes)
  | .inspect i => do
    let image ← loadImage host i
    print a (imageJson image) (imageText image)
  | .update i emergency => do
    let image ← loadImage host i
    update host a image emergency

end Run

end Shdlc.CommandLine
