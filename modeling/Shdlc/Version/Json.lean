import Shdlc.Version
import Shdlc.Json.Members
/-! Versions and error states as JSON values, written and read. -/
namespace Shdlc

namespace Json

def ofUInt8 (n : UInt8) : Json := .ofNat n.toNat

def uint8? (v : Json) : Option UInt8 := (v.natural? 0xFF).map UInt8.ofNat

def uint32? (v : Json) : Option UInt32 := (v.natural? 0xFFFFFFFF).map UInt32.ofNat

end Json

namespace FirmwareVersion

def toJson (v : FirmwareVersion) : Json :=
  .object [("major", .ofUInt8 v.major), ("minor", .ofUInt8 v.minor), ("debug", .bool v.debug)]

def ofJson? (v : Json) : Option FirmwareVersion :=
  match v.fields? ["major", "minor", "debug"] with
  | some [some major, some minor, some debug] => do
    return ⟨← major.uint8?, ← minor.uint8?, ← debug.bool?⟩
  | _ => none

end FirmwareVersion

namespace HardwareVersion

def toJson (v : HardwareVersion) : Json :=
  .object [("major", .ofUInt8 v.major), ("minor", .ofUInt8 v.minor)]

def ofJson? (v : Json) : Option HardwareVersion :=
  match v.fields? ["major", "minor"] with
  | some [some major, some minor] => do return ⟨← major.uint8?, ← minor.uint8?⟩
  | _ => none

end HardwareVersion

namespace ProtocolVersion

def toJson (v : ProtocolVersion) : Json :=
  .object [("major", .ofUInt8 v.major), ("minor", .ofUInt8 v.minor)]

def ofJson? (v : Json) : Option ProtocolVersion :=
  match v.fields? ["major", "minor"] with
  | some [some major, some minor] => do return ⟨← major.uint8?, ← minor.uint8?⟩
  | _ => none

end ProtocolVersion

namespace Version

def toJson (v : Version) : Json :=
  .object [("firmware", v.firmware.toJson), ("hardware", v.hardware.toJson),
    ("protocol", v.protocol.toJson)]

def ofJson? (v : Json) : Option Version :=
  match v.fields? ["firmware", "hardware", "protocol"] with
  | some [some firmware, some hardware, some protocol] => do
    return ⟨← FirmwareVersion.ofJson? firmware, ← HardwareVersion.ofJson? hardware,
      ← ProtocolVersion.ofJson? protocol⟩
  | _ => none

end Version

namespace ErrorState

def toJson (s : ErrorState) : Json :=
  .object [("state", .ofNat s.state.toNat), ("last_error", .ofUInt8 s.lastError)]

def ofJson? (v : Json) : Option ErrorState :=
  match v.fields? ["state", "last_error"] with
  | some [some state, some lastError] => do return ⟨← state.uint32?, ← lastError.uint8?⟩
  | _ => none

end ErrorState

end Shdlc
