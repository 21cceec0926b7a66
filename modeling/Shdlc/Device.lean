import Shdlc.Error
/-!
What a host remembers of a device: its address, whether it last reported that it is in an error
state, and what its error codes mean.
-/
namespace Shdlc

/-- A device, as a host knows it. -/
structure Device where
  address : UInt8
  /-- Whether the latest response said that the device is in an error state. -/
  inErrorState : Bool := false
  /-- Errors with descriptions; of several with one code the first counts. -/
  errors : List DeviceError := DeviceError.standard
deriving DecidableEq, Repr

namespace Device

/-- Adds descriptions of errors; later ones take the place of earlier ones with the same code. -/
def register (errors : List DeviceError) (d : Device) : Device :=
  { d with errors := errors.reverse ++ d.errors }

/-- The error that a code stands for; zero stands for none. -/
def error? (d : Device) (code : UInt8) : Option DeviceError :=
  if code = 0 then none
  else some ((d.errors.find? (·.code == code)).getD (.unknown code))

/-- The error with the device's description of it, if it is one that the device reported. -/
def describe (d : Device) : Error → Error
  | .device e => .device ((d.error? e.code).getD e)
  | e => e

end Device

end Shdlc
