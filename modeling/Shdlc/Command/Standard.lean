import Shdlc.Command
/-! The commands that every device understands, and those of its bootloader. -/
namespace Shdlc

/-- What can be asked of every device. -/
inductive Standard where
  | getSlaveAddress
  | setSlaveAddress (address : UInt8)
  | getBaudrate
  | setBaudrate (baudrate : UInt32)
  | factoryReset
  | getSystemUpTime
  | getReplyDelay
  | setReplyDelay (microseconds : UInt16)
  | getProductType
  | getProductName
  | getArticleCode
  | getSerialNumber
  | getProductSubtype
  | getVersion
  | getErrorState (clear : Bool)
  | deviceReset
  | enterBootloader
  | updateStart
  | updateData (chunk : Bytes)
  | updateStop (checksum : UInt8)
deriving DecidableEq, Repr

namespace Standard

def Answer : Standard → Type
  | .getSlaveAddress | .getProductSubtype => UInt8
  | .getReplyDelay => UInt16
  | .getBaudrate | .getSystemUpTime => UInt32
  | .getProductType | .getProductName | .getArticleCode | .getSerialNumber => String
  | .getVersion => Version
  | .getErrorState _ => ErrorState
  | .setSlaveAddress _ | .setBaudrate _ | .setReplyDelay _ | .factoryReset | .deviceReset
  | .enterBootloader | .updateStart | .updateData _ | .updateStop _ => Unit

/-- A command about firmware. All have one id and differ in their payloads. -/
def bootloader (payload : Bytes) (timeout settling : Nat) : Command Unit :=
  { id := 0xF3, payload, timeout, settling, most := 0, interpret := Answer.nothing }

def information (kind : UInt8) : Command String :=
  { id := 0xD0, payload := [kind], timeout := 500, interpret := Answer.text }

/-- A command that changes a setting, which is answered without data. -/
def setting (id : UInt8) (value : Bytes) : Command Unit :=
  { id, payload := value, timeout := 50, most := 0, interpret := Answer.nothing }

def command : (s : Standard) → Command s.Answer
  | .getSlaveAddress =>
    { id := 0x90, payload := [], timeout := 50, least := 1, most := 1, interpret := Answer.byte }
  | .setSlaveAddress address => setting 0x90 [address]
  | .getBaudrate =>
    { id := 0x91, payload := [], timeout := 50, least := 4, most := 4, interpret := Answer.word32 }
  | .setBaudrate baudrate => setting 0x91 (Bytes.ofUInt32 baudrate)
  | .factoryReset =>
    { id := 0x92, payload := [], timeout := 2000, settling := 2000, most := 0,
      interpret := Answer.nothing }
  | .getSystemUpTime =>
    { id := 0x93, payload := [], timeout := 50, least := 4, most := 4, interpret := Answer.word32 }
  | .getReplyDelay =>
    { id := 0x95, payload := [], timeout := 50, least := 2, most := 2, interpret := Answer.word16 }
  | .setReplyDelay microseconds => setting 0x95 (Bytes.ofUInt16 microseconds)
  | .getProductType => information 0
  | .getProductName => information 1
  | .getArticleCode => information 2
  | .getSerialNumber => information 3
  | .getProductSubtype =>
    { id := 0xD0, payload := [4], timeout := 500, least := 1, most := 1, interpret := Answer.byte }
  | .getVersion =>
    { id := 0xD1, payload := [], timeout := 500, least := 7, most := 7,
      interpret := Answer.version }
  | .getErrorState clear =>
    { id := 0xD2, payload := [if clear then 1 else 0], timeout := 500, least := 5, most := 5,
      interpret := Answer.errorState }
  | .deviceReset =>
    { id := 0xD3, payload := [], timeout := 500, settling := 2000, most := 0,
      interpret := Answer.nothing }
  | .enterBootloader => bootloader [] 100 2000
  | .updateStart => bootloader [1] 20000 0
  | .updateData chunk => bootloader (2 :: chunk) 1000 0
  | .updateStop checksum => bootloader [3, checksum] 1000 2000

end Standard

end Shdlc
