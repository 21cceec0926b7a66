import Shdlc.Update
/-!
A session: several devices on one bus and at most one image, and what can be done with them. Each
operation yields a value or fails; the session goes on in either case.
-/
namespace Shdlc

/-- Devices on one bus, and an image once one is loaded. -/
structure Session where
  bus : Bus
  devices : List Device
  image : Option Image := none

namespace Session

/-- Reading an image block by block. -/
inductive Reading where
  | block (most : Nat)
  | all
  | rewind
deriving DecidableEq, Repr

/-- The bytes that are read, if any are, and the image afterwards. -/
def Reading.apply : Reading → Image → Option Bytes × Image
  | .block most, i => (some (i.block most), i.advance most)
  | .all, i => (some i.rest, i.advance i.available)
  | .rewind, i => (none, i.rewind)

/-- What can be done at a device. -/
inductive DeviceOperation where
  | execute (inquiry : Inquiry) (wait : Bool)
  | productTypeNumber
  | describedErrorState (clear : Bool)
  | setAddress (address : UInt8) (follow : Bool)
  | setBaudrate (baudrate : UInt32) (follow : Bool)
  | reset
  | factoryReset
  | register (errors : List DeviceError)
  | lookUp (code : UInt8)

def DeviceOperation.work : DeviceOperation → Station.Work Value
  | .execute inquiry wait => inquiry.value <$> Station.execute inquiry.command wait
  | .productTypeNumber => (fun n => .number n.toNat) <$> Station.productTypeNumber
  | .describedErrorState clear =>
    (fun (state, error) => .describedState state error) <$> Station.describedErrorState clear
  | .setAddress address follow => (fun _ => .nothing) <$> Station.setAddress address follow
  | .setBaudrate baudrate follow => (fun _ => .nothing) <$> Station.setBaudrate baudrate follow
  | .reset => (fun _ => .nothing) <$> Station.reset
  | .factoryReset => (fun _ => .nothing) <$> Station.factoryReset
  | .register errors => (fun _ => .nothing) <$> Station.register errors
  | .lookUp code => do return .deviceError ((← get).device.error? code)

/-- What can be done in a session. -/
inductive Operation where
  | description
  | isOpen
  | openPort
  | closePort
  | bitrate
  | setBitrate (rate : UInt32)
  | extraTime
  | setExtraTime (milliseconds : Nat)
  /-- The far side sends bytes that nobody asked for. -/
  | push (bytes : Bytes)
  | transceive (address command : UInt8) (data : Bytes) (timeout : Nat)
  | exchange (address command : UInt8) (data : Bytes) (timeout : Nat)
  | execute (address : UInt8) (inquiry : Inquiry) (wait : Bool)
  | load (layout : Image.Layout) (source : Image.Source)
  | read (reading : Reading)
  | atDevice (index : Nat) (operation : DeviceOperation)
  | update (index : Nat) (emergency listening : Bool)

/-- What an operation yields. -/
inductive Outcome where
  | value (value : Value)
  | response (response : Response)
  /-- Data of a response, and whether the device is in an error state. -/
  | exchanged (data : Bytes) (inErrorState : Bool)
  /-- The answer to a command, and whether the device is in an error state. -/
  | answered (value : Value) (inErrorState : Bool)
  | loaded (image : Image)
  | read (data : Option Bytes) (available : Nat)
  /-- There is no such device, or no image. -/
  | missing

abbrev Work := EStateM Error Session

def onBus {α : Type} (action : Action α) : Work α := fun ⟨bus, devices, image⟩ =>
  match action bus with
  | .ok a bus => .ok a ⟨bus, devices, image⟩
  | .error e bus => .error e ⟨bus, devices, image⟩

def atDevice (index : Nat) (work : Station.Work Value) : Work Outcome :=
    fun ⟨bus, devices, image⟩ =>
  match devices[index]? with
  | none => .ok .missing ⟨bus, devices, image⟩
  | some device =>
    match work ⟨device, bus⟩ with
    | .ok value ⟨device, bus⟩ => .ok (.value value) ⟨bus, devices.set index device, image⟩
    | .error e ⟨device, bus⟩ => .error e ⟨bus, devices.set index device, image⟩

def update (index : Nat) (emergency listening : Bool) : Work Outcome := fun ⟨bus, devices, image⟩ =>
  match devices[index]?, image with
  | some device, some image =>
    match Update.run emergency listening ⟨⟨device, bus⟩, image⟩ with
    | .ok _ ⟨⟨device, bus⟩, image⟩ =>
      .ok (.value .nothing) ⟨bus, devices.set index device, some image⟩
    | .error e ⟨⟨device, bus⟩, image⟩ => .error e ⟨bus, devices.set index device, some image⟩
  | _, image => .ok .missing ⟨bus, devices, image⟩

/-- Loads an image; if that fails, an image loaded before stays. -/
def load (layout : Image.Layout) (source : Image.Source) : Work Outcome := do
  match Image.load layout source #[] with
  | .ok image notes =>
    onBus (Bus.notes notes.toList)
    modify fun s => { s with image := some image }
    return .loaded image
  | .error e notes =>
    onBus (Bus.notes notes.toList)
    throw e

def read (reading : Reading) : Work Outcome := do
  match (← get).image with
  | none => return .missing
  | some image =>
    let (data, image) := reading.apply image
    modify fun s => { s with image := some image }
    return .read data image.available

def perform : Operation → Work Outcome
  | .description => do return .value (.text (← get).bus.port.description)
  | .isOpen => do return .value (.truth (← get).bus.port.isOpen)
  | .openPort => done Bus.openPort
  | .closePort => done Bus.closePort
  | .bitrate => do return .value (.number (← onBus Bus.bitrate).toNat)
  | .setBitrate rate => done (Bus.setBitrate rate)
  | .extraTime => do
    return .value (((← get).bus.port.extraTime?.map .number).getD .nothing)
  | .setExtraTime milliseconds =>
    done (modify fun b => { b with port := b.port.withExtraTime milliseconds })
  | .push bytes => done (Bus.push bytes)
  | .transceive address command data timeout =>
    .response <$> onBus (Bus.transceive address command data timeout)
  | .exchange address command data timeout => do
    let (data, flag) ← onBus (Bus.exchange address command data timeout)
    return .exchanged data flag
  | .execute address inquiry wait => do
    let (answer, flag) ← onBus (Bus.execute address inquiry.command wait)
    return .answered (inquiry.value answer) flag
  | .load layout source => load layout source
  | .read reading => read reading
  | .atDevice index operation => atDevice index operation.work
  | .update index emergency listening => update index emergency listening
where
  /-- Does something with the bus that yields nothing. -/
  done (action : Action Unit) : Work Outcome := do
    onBus action
    return .value .nothing

/-- The session in which devices with the given addresses are reached through a port. -/
def start (port : Port) (surroundings : Surroundings) (addresses : List UInt8) : Session :=
  let bus : Bus := { port, surroundings }
  let bus := match Bus.connect bus with
    | .ok _ bus | .error _ bus => bus
  { bus, devices := addresses.map fun address => { address } }

end Session

end Shdlc
