import Shdlc.Image.Memory
import Shdlc.Log.Note
/-!
Firmware images: what a bootloader is given of a memory, and for whom it is made. The memory holds,
from the application's start on, a signature and then the application data, which begin with the
type of product and the version of the application.
-/
namespace Shdlc

/-- Where a product keeps its firmware. -/
structure Image.Layout where
  bootloader : UInt32
  application : UInt32
  /-- The bytes that every image for the bootloader starts with. -/
  signature : Bytes := [0x4A, 0x47, 0x4F, 0x4B]
  /-- Where the version of the bootloader stands, counted from its start. -/
  versionOffset : UInt32 := 0x1004
deriving DecidableEq, Repr

/-- A firmware image, read block by block. -/
structure Image where
  productType : UInt32
  bootloaderVersion : FirmwareVersion
  applicationVersion : FirmwareVersion
  /-- What is sent to the bootloader. -/
  application : Bytes
  /-- What has not been read yet. -/
  rest : Bytes
  rest_suffix : rest <:+ application
deriving DecidableEq, Repr

namespace Image

def size (i : Image) : Nat := i.application.length

def available (i : Image) : Nat := i.rest.length

/-- The byte that makes the sum of the application and itself `0xFF`. -/
def checksum (i : Image) : UInt8 := ~~~(Bytes.total i.application)

/-- The next block of at most `most` bytes. -/
def block (most : Nat) (i : Image) : Bytes := i.rest.take most

/-- The image after a block of at most `most` bytes has been read. -/
def advance (most : Nat) (i : Image) : Image :=
  { i with rest := i.rest.drop most, rest_suffix := (List.drop_suffix ..).trans i.rest_suffix }

/-- As long as something has not been read, less is left after a block. -/
theorem available_advance_lt {most : Nat} {i : Image} (hm : 0 < most) (hi : i.available ≠ 0) :
    (i.advance most).available < i.available := by
  have hlen : (i.advance most).available = i.available - most := List.length_drop
  omega

/-- The image with nothing read. -/
def rewind (i : Image) : Image :=
  { i with rest := i.application, rest_suffix := List.suffix_refl _ }

/-- The sum, or the greatest address if that is less. -/
def saturating (address : UInt32) (offset : Nat) : UInt32 :=
  UInt32.ofNat (min (address.toNat + offset) 0xFFFFFFFF)

namespace Layout

/-- Where the application data begin, behind the signature, whose length is taken in 32 bits. -/
def header (l : Layout) : UInt32 :=
  saturating l.application (UInt32.ofNat l.signature.length).toNat

def signatureEnd (l : Layout) : UInt32 := UInt32.ofNat (l.header.toNat - 1)

def bootloaderVersion (l : Layout) : UInt32 := saturating l.bootloader l.versionOffset.toNat

def applicationVersion (l : Layout) : UInt32 := saturating l.header 4

/-- The last address of the application, in a memory written up to `highest`: it ends in front of a
bootloader that lies above it. -/
def applicationEnd (l : Layout) (highest : UInt32) : UInt32 :=
  if l.application < l.bootloader then l.bootloader - 1 else highest

end Layout

abbrev Loading := EStateM Error (Array Log.Note)

namespace Loading

def note (n : Log.Note) : Loading Unit := modify fun notes => notes.push n

def orFail {α : Type} : Except Error α → Loading α
  | .ok a => pure a
  | .error e => throw e

end Loading

open Loading in
/-- The image in the memory that a text in Intel HEX describes. -/
def ofText (layout : Layout) (text : String) : Loading Image := do
  if layout.signature.isEmpty then throw (.image .emptySignature)
  let memory ← orFail (Memory.ofText text)
  let some lowest := memory.lowest? | throw (.image .noData)
  let some highest := memory.highest? | throw (.image .noData)
  note (.hexLoaded lowest highest)
  let signature ← orFail (memory.range layout.application layout.signatureEnd)
  if signature ≠ layout.signature then throw (.imageSignature signature)
  note .signatureFound
  let productType := memory.wordAt layout.header
  note (.productType productType)
  let bootloaderVersion := memory.versionAt layout.bootloaderVersion
  note (.bootloaderVersion bootloaderVersion)
  let applicationVersion := memory.versionAt layout.applicationVersion
  note (.applicationVersion applicationVersion)
  let application ← orFail (memory.range layout.header (layout.applicationEnd highest))
  let image : Image := {
    productType, bootloaderVersion, applicationVersion, application
    rest := application
    rest_suffix := List.suffix_refl _ }
  note (.applicationSize image.size)
  note (.applicationChecksum image.checksum)
  return image

/-- Where the text of an image comes from. -/
inductive Source where
  | text (text : String)
  | bytes (bytes : Bytes)
  /-- A file by its path, with what reading it gives. -/
  | file (path : String) (content : Except SystemError Bytes)

/-- Text in UTF-8. -/
def decodeText (bs : Bytes) : Except Error String :=
  match String.fromUTF8? ⟨bs.toArray⟩ with
  | some text => .ok text
  | none => .error (.system .notText)

open Loading in
def load (layout : Layout) : Source → Loading Image
  | .text text => ofText layout text
  | .bytes bs => do ofText layout (← orFail (decodeText bs))
  | .file path content => do
    let bs ← orFail (content.mapError .system)
    let text ← orFail (decodeText bs)
    note (.hexLoading path)
    ofText layout text

end Image

end Shdlc
