import Shdlc.Station
import Shdlc.Image
/-!
Updating the firmware of a device. The plan: ask the device what type of product it is, let it enter
its bootloader, and then, at the bootloader's bitrate, clear the memory, send the application in
chunks and the checksum. Each request is sent when the one before it has been answered well. An
emergency update leaves out the first two steps, for devices that are in the bootloader already.
-/
namespace Shdlc

/-- A station with the image that is written to its device. -/
structure Bench extends Station where
  image : Image

namespace Update

abbrev Work := EStateM Error Bench

/-- The bitrate at which bootloaders are reached. -/
def bootloaderBitrate : UInt32 := 115200

/-- The address under which bootloaders are reached. -/
def bootloaderAddress : UInt8 := 0

/-- The most bytes of the application in a request; one byte tells what the request is about. -/
def chunkSize : Nat := 254

def atStation {α : Type} (work : Station.Work α) : Work α := fun ⟨station, image⟩ =>
  match work station with
  | .ok a station => .ok a ⟨station, image⟩
  | .error e station => .error e ⟨station, image⟩

def onBus {α : Type} (action : Action α) : Work α := atStation (Station.onBus action)

def status (listening : Bool) (text : String) : Work Unit := onBus do
  Bus.note (.updateStatus text)
  if listening then Bus.record (.event (.status text))

def progress (listening : Bool) (percent : Double) : Work Unit := onBus do
  if listening then Bus.record (.event (.ofPercent percent))

/-- Has the bootloader execute a command. -/
def send (s : Standard) : Work Unit := onBus do
  let _ ← Bus.execute bootloaderAddress s.command true

def percent (n : Nat) : Double := .ofFloat (Float.ofNat n)

/-- How much is done when `written` of `size` bytes are written: 10 to 90 percent. -/
def percentWritten (written size : Nat) : Double :=
  .ofFloat (10 + Float.ofNat written / Float.ofNat size * 80)

/-- What a listener is told when `written` of `size` bytes are written. -/
def writtenText (written size : Nat) : String :=
  "Write new firmware: " ++ Decimal.kilobytes written ++ " kB of " ++
    Decimal.kilobytes size ++ " kB"

def checkProductType (listening : Bool) : Work Unit := do
  status listening "Check compatibility..."
  let type ← atStation Station.productTypeNumber
  let madeFor := (← get).image.productType
  if type ≠ madeFor then throw (.imageIncompatible madeFor type)
  progress listening (percent 4)

def enterBootloader (listening : Bool) : Work Unit := do
  status listening "Enter bootloader..."
  let address := (← get).device.address
  onBus do let _ ← Bus.execute address Standard.enterBootloader.command true
  progress listening (percent 7)

/-- Writes what has not been read of the image, one block after the other. -/
def writeBlocks (listening : Bool) (image : Image) : Work Unit :=
  if h : image.available = 0 then pure ()
  else do
    have := Image.available_advance_lt (by decide : 0 < chunkSize) h
    let next := image.advance chunkSize
    modify fun b => { b with image := next }
    send (.updateData (image.block chunkSize))
    let written := image.size - next.available
    status listening (writtenText written image.size)
    progress listening (percentWritten written image.size)
    writeBlocks listening next
termination_by image.available

/-- Clears the memory of the device, writes the image and has the device check it. -/
def flash (listening : Bool) : Work Unit := do
  status listening "Clear flash..."
  send .updateStart
  progress listening (percent 10)
  status listening "Write new firmware..."
  modify fun b => { b with image := b.image.rewind }
  let image := (← get).image
  writeBlocks listening image
  status listening "Verify checksum..."
  send (.updateStop image.checksum)
  progress listening (percent 100)

/-- Updates the device. The bitrate is set to itself first, so that a port which cannot change it is
found out before anything is sent; afterwards it is set back, whatever has happened. -/
def run (emergency listening : Bool) : Work Unit := do
  let before ← onBus Bus.bitrate
  onBus (Bus.setBitrate before)
  if !emergency then
    checkProductType listening
    enterBootloader listening
  onBus (Bus.setBitrate bootloaderBitrate)
  let flashed ← attempt (flash listening)
  let restored ← attempt (onBus (Bus.setBitrate before))
  onBus (Bus.orFail flashed)
  onBus (Bus.orFail restored)
  status listening "Finished!"

end Update

end Shdlc
