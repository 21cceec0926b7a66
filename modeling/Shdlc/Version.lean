import Shdlc.Bytes
/-! Versions that a device reports of itself, and its error state. -/
namespace Shdlc

/-- Version of a firmware; debug builds say so. -/
structure FirmwareVersion where
  major : UInt8
  minor : UInt8
  debug : Bool
deriving DecidableEq, Repr, Inhabited

/-- Version of a circuit board. -/
structure HardwareVersion where
  major : UInt8
  minor : UInt8
deriving DecidableEq, Repr, Inhabited

/-- Version of the protocol that a device speaks. -/
structure ProtocolVersion where
  major : UInt8
  minor : UInt8
deriving DecidableEq, Repr, Inhabited

/-- All versions of a device. -/
structure Version where
  firmware : FirmwareVersion
  hardware : HardwareVersion
  protocol : ProtocolVersion
deriving DecidableEq, Repr, Inhabited

def dotted (major minor : UInt8) : String := toString major.toNat ++ "." ++ toString minor.toNat

namespace FirmwareVersion

def text (v : FirmwareVersion) : String :=
  dotted v.major v.minor ++ if v.debug then "-debug" else ""

end FirmwareVersion

namespace HardwareVersion

def text (v : HardwareVersion) : String := dotted v.major v.minor

end HardwareVersion

namespace ProtocolVersion

def text (v : ProtocolVersion) : String := dotted v.major v.minor

end ProtocolVersion

namespace Version

def text (v : Version) : String :=
  "Firmware " ++ v.firmware.text ++ ", Hardware " ++ v.hardware.text ++ ", Protocol " ++
    v.protocol.text

/-- The versions in the seven bytes of a device's answer. -/
def ofBytes? : Bytes → Option Version
  | [a, b, debug, c, d, e, f] => some ⟨⟨a, b, debug != 0⟩, ⟨c, d⟩, ⟨e, f⟩⟩
  | _ => none

end Version

/-- What a device says of its health: flags of its own making and the code of its last error. -/
structure ErrorState where
  state : UInt32
  lastError : UInt8
deriving DecidableEq, Repr, Inhabited

end Shdlc
