import Shdlc.Version
import Shdlc.Text.Hexadecimal
import Shdlc.Decimal.Places
/-! What the library and the program write to a log, by meaning, with level, target and wording. -/
namespace Shdlc.Log

/-- How much a note matters. -/
inductive Level where
  | error | warn | info | debug | trace
deriving DecidableEq, Repr, Inhabited

namespace Level

/-- Position in the order of detail: the higher, the less a note matters. -/
def detail : Level → Nat
  | .error => 1
  | .warn => 2
  | .info => 3
  | .debug => 4
  | .trace => 5

def name : Level → String
  | .error => "ERROR"
  | .warn => "WARN"
  | .info => "INFO"
  | .debug => "DEBUG"
  | .trace => "TRACE"

end Level

/-- The part of the program that writes a note. -/
inductive Topic where
  | frame | error | connection | device | image | update | tcp | serial | commandLine
deriving DecidableEq, Repr, Inhabited

namespace Topic

def target : Topic → String
  | .frame => "shdlc_core::frame"
  | .error => "shdlc_core::error"
  | .connection => "shdlc_core::connection"
  | .device => "shdlc_core::device"
  | .image => "shdlc_core::firmware_image"
  | .update => "shdlc_core::firmware_update"
  | .tcp => "shdlc_port::tcp"
  | .serial => "shdlc_port::serial"
  | .commandLine => "shdlc::cli"

end Topic

/-- A note in a log. -/
inductive Note where
  /-- These bytes hold the response. -/
  | received (raw : Bytes)
  /-- These bytes are flawed. -/
  | flawed (raw : Bytes)
  | connectionOpened (port : String)
  | inErrorState (address : UInt8)
  | returnedError (address code : UInt8)
  | addressChanged (before after : UInt8)
  | hexLoading (path : String)
  | hexLoaded (lowest highest : UInt32)
  | signatureFound
  | productType (type : UInt32)
  | bootloaderVersion (version : FirmwareVersion)
  | applicationVersion (version : FirmwareVersion)
  | applicationSize (bytes : Nat)
  | applicationChecksum (checksum : UInt8)
  | updateStatus (text : String)
  | tcpOpening (port : String)
  | tcpClosed (port : String)
  | tcpDiscarded (count : Nat)
  | tcpSending (raw : Bytes)
  | serialOpening (name : String) (bitrate : UInt32)
  | serialClosed (name : String)
  | serialSending (raw : Bytes)
  | usingPort (port : String)
  | addressSet (address : UInt8)
  | baudrateSet (baudrate : UInt32)
  | replyDelaySet (microseconds : UInt16)
  | deviceReset
  | factoryResetDone
  | imageLoading (path : String)
  | progress (percent : Double)
  | updateDone (events : Nat) (finished : Bool)
deriving DecidableEq, Repr, Inhabited

namespace Note

def topic : Note → Topic
  | .received _ => .frame
  | .flawed _ => .error
  | .connectionOpened _ | .inErrorState _ | .returnedError _ _ => .connection
  | .addressChanged _ _ => .device
  | .hexLoading _ | .hexLoaded _ _ | .signatureFound | .productType _ | .bootloaderVersion _
  | .applicationVersion _ | .applicationSize _ | .applicationChecksum _ => .image
  | .updateStatus _ => .update
  | .tcpOpening _ | .tcpClosed _ | .tcpDiscarded _ | .tcpSending _ => .tcp
  | .serialOpening _ _ | .serialClosed _ | .serialSending _ => .serial
  | .usingPort _ | .addressSet _ | .baudrateSet _ | .replyDelaySet _ | .deviceReset
  | .factoryResetDone | .imageLoading _ | .progress _ | .updateDone _ _ => .commandLine

def level : Note → Level
  | .inErrorState _ | .returnedError _ _ => .warn
  | .addressSet _ | .baudrateSet _ | .replyDelaySet _ | .deviceReset | .factoryResetDone
  | .imageLoading _ | .updateDone _ _ => .info
  | _ => .debug

private def bracketed (raw : Bytes) : String := "[" ++ Hexadecimal.listing raw ++ "]"

def message : Note → String
  | .received raw => "SHDLC received raw: " ++ bracketed raw
  | .flawed raw => "Invalid SHDLC response raw data: " ++ bracketed raw
  | .connectionOpened port => "Opened ShdlcConnection on '" ++ port ++ "'."
  | .inErrorState address =>
    "SHDLC device with address " ++ toString address.toNat ++ " is in error state."
  | .returnedError address code =>
    "SHDLC device with address " ++ toString address.toNat ++ " returned error " ++
      toString code.toNat ++ "."
  | .addressChanged before after =>
    "Slave address changed from " ++ toString before.toNat ++ " to " ++ toString after.toNat ++ "."
  | .hexLoading path => "Loading hex file " ++ path ++ "."
  | .hexLoaded lowest highest =>
    "Loaded hex file [minaddr=0x" ++ Hexadecimal.ofUInt32 lowest ++ ", maxaddr=0x" ++
      Hexadecimal.ofUInt32 highest ++ "]"
  | .signatureFound => "Signature: OK"
  | .productType type => "Product type: 0x" ++ Hexadecimal.ofUInt32 type
  | .bootloaderVersion version => "Bootloader version: " ++ version.text
  | .applicationVersion version => "Application version: " ++ version.text
  | .applicationSize bytes => "Application size: " ++ Decimal.kilobytes bytes ++ " kB"
  | .applicationChecksum checksum => "Application checksum: 0x" ++ Hexadecimal.ofUInt8 checksum
  | .updateStatus text => "SHDLC firmware update: " ++ text
  | .tcpOpening port => "Open ShdlcTcpPort on " ++ port ++ "."
  | .tcpClosed port => "Closed ShdlcTcpPort on " ++ port ++ "."
  | .tcpDiscarded count => "ShdlcTcpPort discarded " ++ toString count ++ " stale bytes."
  | .tcpSending raw => "ShdlcTcpPort send raw: " ++ bracketed raw
  | .serialOpening name bitrate =>
    "Open ShdlcSerialPort on '" ++ name ++ "' with " ++ toString bitrate.toNat ++ " bit/s."
  | .serialClosed name => "Closed ShdlcSerialPort on '" ++ name ++ "'."
  | .serialSending raw => "ShdlcSerialPort send raw: " ++ bracketed raw
  | .usingPort port => "Using port " ++ port
  | .addressSet address => "Slave address set to " ++ toString address.toNat
  | .baudrateSet baudrate =>
    let rate := toString baudrate.toNat
    "Device baudrate set to " ++ rate ++ " bit/s, reconnect with --baudrate " ++ rate
  | .replyDelaySet microseconds => "Reply delay set to " ++ toString microseconds.toNat ++ " us"
  | .deviceReset => "Device reset"
  | .factoryResetDone => "Factory reset done"
  | .imageLoading path => "Loading firmware image " ++ path
  | .progress percent => "Progress: " ++ Decimal.fixed 1 percent ++ "%"
  | .updateDone _ _ => "Firmware update done"

def fields : Note → List (String × String)
  | .updateDone events finished => [("events", toString events), ("finished", toString finished)]
  | _ => []

def line (n : Note) : String :=
  n.level.name ++ " " ++ n.message ++
    String.join (n.fields.map fun (name, value) => " " ++ name ++ "=" ++ value)

end Note

end Shdlc.Log
