import Shdlc.Bus
import Shdlc.Device
import Shdlc.Command.Inquiry
import Shdlc.Text.ProductType
/-!
A station: a device and the bus on which it is reached. What is done at a station may fail; the
changes made until then stay.
-/
namespace Shdlc

/-- A device and the bus on which it is reached. -/
structure Station where
  device : Device
  bus : Bus

namespace Station

abbrev Work := EStateM Error Station

def onBus {α : Type} (action : Action α) : Work α := fun ⟨device, bus⟩ =>
  match action bus with
  | .ok a bus => .ok a ⟨device, bus⟩
  | .error e bus => .error e ⟨device, bus⟩

/-- Executes a command on the device and remembers whether the device reports an error state. Its
errors get the descriptions that were registered for it. -/
def execute {α : Type} (command : Command α) (wait : Bool) : Work α := fun ⟨device, bus⟩ =>
  match Bus.execute device.address command wait bus with
  | .ok (answer, inErrorState) bus => .ok answer ⟨{ device with inErrorState }, bus⟩
  | .error e bus => .error (device.describe e) ⟨device, bus⟩

/-- Asks the device, and waits until it has settled. -/
def ask (s : Standard) : Work s.Answer := execute s.command true

def forgetErrorState : Work Unit :=
  modify fun s => { s with device := { s.device with inErrorState := false } }

def productTypeNumber : Work UInt32 := do
  let text : String ← ask .getProductType
  onBus (Bus.understand (Text.productType text))

/-- What the device says of its state, and the error that it names, with its description. -/
def describedErrorState (clear : Bool) : Work (UInt32 × Option DeviceError) := do
  let answer : ErrorState ← ask (.getErrorState clear)
  return (answer.state, (← get).device.error? answer.lastError)

/-- Gives the device an address; with `follow`, the device is addressed so from now on. -/
def setAddress (address : UInt8) (follow : Bool) : Work Unit := do
  let _ : Unit ← ask (.setSlaveAddress address)
  if follow then
    onBus (Bus.note (.addressChanged (← get).device.address address))
    modify fun s => { s with device := { s.device with address } }

/-- Gives the device a baudrate; with `follow`, the port changes to it too. -/
def setBaudrate (baudrate : UInt32) (follow : Bool) : Work Unit := do
  let _ : Unit ← ask (.setBaudrate baudrate)
  if follow then onBus (Bus.setBitrate baudrate)

def reset : Work Unit := do
  let _ : Unit ← ask .deviceReset
  forgetErrorState

def factoryReset : Work Unit := do
  let _ : Unit ← ask .factoryReset
  forgetErrorState

def register (errors : List DeviceError) : Work Unit :=
  modify fun s => { s with device := s.device.register errors }

end Station

end Shdlc
