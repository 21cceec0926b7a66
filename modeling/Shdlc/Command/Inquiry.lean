import Shdlc.Command.Standard
/-! Inquiries: commands of any kind, with their answers as values of one type. -/
namespace Shdlc

/-- A standard command, or one that is given in full. -/
inductive Inquiry where
  | standard (standard : Standard)
  | raw (command : Command (Option Bytes))

/-- What an operation yields. -/
inductive Value where
  | nothing
  | truth (value : Bool)
  | number (value : Nat)
  | text (value : String)
  | bytes (value : Option Bytes)
  | version (value : Version)
  | errorState (value : ErrorState)
  /-- A state, and the error that it names. -/
  | describedState (state : UInt32) (error : Option DeviceError)
  | deviceError (error : Option DeviceError)
deriving DecidableEq, Repr

def Standard.value : (s : Standard) → s.Answer → Value
  | .getSlaveAddress, (a : UInt8) | .getProductSubtype, (a : UInt8) => .number a.toNat
  | .getReplyDelay, (a : UInt16) => .number a.toNat
  | .getBaudrate, (a : UInt32) | .getSystemUpTime, (a : UInt32) => .number a.toNat
  | .getProductType, (a : String) | .getProductName, (a : String) | .getArticleCode, (a : String)
  | .getSerialNumber, (a : String) => .text a
  | .getVersion, (a : Version) => .version a
  | .getErrorState _, (a : ErrorState) => .errorState a
  | .setSlaveAddress _, _ | .setBaudrate _, _ | .setReplyDelay _, _ | .factoryReset, _
  | .deviceReset, _ | .enterBootloader, _ | .updateStart, _ | .updateData _, _
  | .updateStop _, _ => .nothing

namespace Inquiry

def Answer : Inquiry → Type
  | .standard s => s.Answer
  | .raw _ => Option Bytes

def command : (i : Inquiry) → Command i.Answer
  | .standard s => s.command
  | .raw c => c

def value : (i : Inquiry) → i.Answer → Value
  | .standard s, a => s.value a
  | .raw _, (a : Option Bytes) => .bytes a

end Inquiry

end Shdlc
