import Shdlc.Image.Record
/-!
Everything that can go wrong, by cause. The wording stands in the functions named `message`.
-/
namespace Shdlc

/-- An error that a device reports in the state byte of a response, with its description. -/
structure DeviceError where
  code : UInt8
  message : String
deriving DecidableEq, Repr, Inhabited

namespace DeviceError

/-- The error for a code without a description of its own. -/
def unknown (code : UInt8) : DeviceError := ⟨code, "Unknown error."⟩

def standard : List DeviceError :=
  [⟨1, "Illegal data size of the MOSI frame. Either an invalid frame was sent or the parameter value is out of range."⟩,
    ⟨2, "The device does not know this command."⟩,
    ⟨3, "No access right for this command."⟩,
    ⟨4, "Illegal command parameter or parameter out of allowed range."⟩,
    ⟨5, "Checksum of the received MOSI frame is wrong."⟩,
    ⟨6, "Firmware update failed."⟩]

def text (e : DeviceError) : String :=
  "SHDLC device error 0x" ++ Hexadecimal.ofUInt8 e.code ++ ": " ++ e.message

end DeviceError

/-- Kinds of errors of the operating system. -/
inductive SystemError.Kind where
  | addressInUse | addressNotAvailable | alreadyExists | argumentListTooLong | brokenPipe
  | connectionAborted | connectionRefused | connectionReset | crossesDevices | deadlock
  | directoryNotEmpty | executableBusy | fileTooLarge | hostUnreachable | interrupted
  | invalidData | invalidFilename | invalidInput | isDirectory | networkDown | networkUnreachable
  | notDirectory | notConnected | notFound | notSeekable | other | outOfMemory | permissionDenied
  | quotaExceeded | readOnlyFilesystem | resourceBusy | staleNetworkHandle | storageFull | timedOut
  | tooManyLinks | uncategorized | unexpectedEnd | unsupported | wouldBlock | writeZero
deriving DecidableEq, Repr, Inhabited

/-- An error of the operating system. -/
structure SystemError where
  kind : SystemError.Kind
  text : String
deriving DecidableEq, Repr, Inhabited

namespace SystemError

/-- What a kind of error is called where nothing more is known. -/
def Kind.description : Kind → String
  | .addressInUse => "address in use"
  | .addressNotAvailable => "address not available"
  | .alreadyExists => "entity already exists"
  | .argumentListTooLong => "argument list too long"
  | .brokenPipe => "broken pipe"
  | .connectionAborted => "connection aborted"
  | .connectionRefused => "connection refused"
  | .connectionReset => "connection reset"
  | .crossesDevices => "cross-device link or rename"
  | .deadlock => "deadlock"
  | .directoryNotEmpty => "directory not empty"
  | .executableBusy => "executable file busy"
  | .fileTooLarge => "file too large"
  | .hostUnreachable => "host unreachable"
  | .interrupted => "operation interrupted"
  | .invalidData => "invalid data"
  | .invalidFilename => "invalid filename"
  | .invalidInput => "invalid input parameter"
  | .isDirectory => "is a directory"
  | .networkDown => "network down"
  | .networkUnreachable => "network unreachable"
  | .notDirectory => "not a directory"
  | .notConnected => "not connected"
  | .notFound => "entity not found"
  | .notSeekable => "seek on unseekable file"
  | .other => "other error"
  | .outOfMemory => "out of memory"
  | .permissionDenied => "permission denied"
  | .quotaExceeded => "quota exceeded"
  | .readOnlyFilesystem => "read-only filesystem or storage medium"
  | .resourceBusy => "resource busy"
  | .staleNetworkHandle => "stale network file handle"
  | .storageFull => "no storage space"
  | .timedOut => "timed out"
  | .tooManyLinks => "too many links"
  | .uncategorized => "uncategorized error"
  | .unexpectedEnd => "unexpected end of file"
  | .unsupported => "unsupported"
  | .wouldBlock => "operation would block"
  | .writeZero => "write zero"

def ofKind (kind : Kind) : SystemError := ⟨kind, kind.description⟩

/-- The end of a connection, as a reader meets it. -/
def closedByPeer : SystemError := ⟨.unexpectedEnd, "connection closed by peer"⟩

/-- A file that is no text. -/
def notText : SystemError := ⟨.invalidData, "stream did not contain valid UTF-8"⟩

end SystemError

/-- What is wrong with a frame or with the answer in it. -/
inductive Flaw where
  | requestTooShort
  | tooShort
  | tooLong
  | wrongLength
  | wrongChecksum
  | foreignAddress (received expected : UInt8)
  | foreignCommand (received expected : UInt8)
  | answerLength (least most length : Nat)
  | fixedLength (expected length : Nat)
  | notText
  | productType (text : String)
deriving DecidableEq, Repr

def Flaw.message : Flaw → String
  | .requestTooShort => "Request is too short."
  | .tooShort => "Response is too short."
  | .tooLong => "Response is too long."
  | .wrongLength => "Wrong length."
  | .wrongChecksum => "Wrong checksum."
  | .foreignAddress received expected =>
    "Received slave address " ++ toString received.toNat ++ " instead of " ++
      toString expected.toNat ++ "."
  | .foreignCommand received expected =>
    "Received command ID 0x" ++ Hexadecimal.ofUInt8 received ++ " instead of 0x" ++
      Hexadecimal.ofUInt8 expected ++ "."
  | .answerLength least most length =>
    "Wrong response length (expected " ++ toString least ++ ".." ++ toString most ++
      " bytes, got " ++ toString length ++ ")."
  | .fixedLength expected length =>
    "Expected " ++ toString expected ++ " bytes, got " ++ toString length ++ "."
  | .notText => "Response is not valid UTF-8."
  | .productType text => "Invalid product type '" ++ text ++ "'."

/-- Why a file is no firmware image. -/
inductive ImageFlaw where
  | emptySignature
  | noData
  | rangeTooLarge (first last : UInt32)
  | record (flaw : Image.RecordFlaw)
deriving DecidableEq, Repr

def ImageFlaw.message : ImageFlaw → String
  | .emptySignature => "empty signature"
  | .noData => "file contains no data"
  | .rangeTooLarge first last =>
    "application range too large (0x" ++ Hexadecimal.ofUInt32 first ++ "..=0x" ++
      Hexadecimal.ofUInt32 last ++ ")"
  | .record flaw => flaw.message

/-- Why an operation failed. -/
inductive Error where
  /-- No response came in time. -/
  | timeout
  /-- A frame or an answer is flawed; the bytes in question, where there are any. -/
  | response (flaw : Flaw) (received : Option Bytes)
  /-- The device answered with an error. -/
  | device (error : DeviceError)
  /-- The data of a request fill more than a frame. -/
  | payloadTooLong (length : Nat)
  /-- An image starts with other bytes than its signature. -/
  | imageSignature (found : Bytes)
  /-- An image is made for another type of device. -/
  | imageIncompatible (madeFor present : UInt32)
  /-- A file is no firmware image. -/
  | image (flaw : ImageFlaw)
  /-- The port with this description has no bitrate. -/
  | bitrateUnsupported (port : String)
  /-- The operating system refused. -/
  | system (error : SystemError)
deriving DecidableEq, Repr

def Error.message : Error → String
  | .timeout =>
    "Timeout while waiting for response from SHDLC device. Check connection to device and make sure it is powered on."
  | .response flaw _ => "Invalid data received from the SHDLC device: " ++ flaw.message
  | .device error => error.text
  | .payloadTooLong length =>
    "Payload of " ++ toString length ++ " bytes exceeds the SHDLC limit of 255 bytes."
  | .imageSignature found =>
    "Invalid signature in firmware image: [" ++ Hexadecimal.listing found ++ "]"
  | .imageIncompatible madeFor present =>
    "Firmware image is not compatible with device: image product type 0x" ++
      Hexadecimal.ofUInt32 madeFor ++ " does not match device product type 0x" ++
      Hexadecimal.ofUInt32 present ++ "."
  | .image flaw => "invalid firmware image: " ++ flaw.message
  | .bitrateUnsupported port =>
    "The port '" ++ port ++ "' does not support changing the bitrate."
  | .system error => "IO error: " ++ error.text

end Shdlc
