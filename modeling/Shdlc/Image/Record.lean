import Shdlc.Text.Hexadecimal
/-!
Records of an Intel HEX file. A line is a colon and pairs of hexadecimal digits: length, offset
(two bytes), type, payload and a checksum that makes all bytes sum to zero. Of two faults in a line
the one that is listed first below is reported.
-/
namespace Shdlc.Image

/-- What a line of an Intel HEX file says. -/
inductive Record where
  | data (offset : UInt16) (bytes : Bytes)
  | endOfFile
  | extendedSegment (base : UInt16)
  | startSegment (codeSegment instruction : UInt16)
  | extendedLinear (base : UInt16)
  | startLinear (address : UInt32)
deriving DecidableEq, Repr

/-- Why a line is no record. -/
inductive RecordFlaw where
  | noStartCode
  | badCharacter
  | tooShort
  | tooLong
  | oddCount
  | checksum (computed stated : UInt8)
  | lengthMismatch
  | unknownType (type : UInt8)
  | lengthForType
deriving DecidableEq, Repr

def RecordFlaw.message : RecordFlaw → String
  | .noStartCode => "missing start code ':'"
  | .badCharacter => "invalid characters encountered in record"
  | .tooShort => "too short"
  | .tooLong => "too long"
  | .oddCount => "record does not contain a whole number of bytes"
  | .checksum computed stated =>
    "invalid checksum '" ++ Hexadecimal.ofUInt8 computed ++ "', expecting '" ++
      Hexadecimal.ofUInt8 stated ++ "'"
  | .lengthMismatch => "payload length does not match record header"
  | .unknownType type => "unsupported IHEX record type '" ++ Hexadecimal.ofUInt8 type ++ "'"
  | .lengthForType => "payload length invalid for record type"

namespace Record

/-- Digits of the shortest record: length, offset, type and checksum. -/
def fewestDigits : Nat := 2 * (1 + 2 + 1 + 1)

/-- Digits of the longest record, which has 255 bytes of payload. -/
def mostDigits : Nat := 2 * (1 + 2 + 1 + 255 + 1)

/-- The byte that makes `bs` and itself sum to zero. -/
def checksum (bs : Bytes) : UInt8 := 0 - Bytes.total bs

def ofParts (type : UInt8) (offset : UInt16) (payload : Bytes) : Except RecordFlaw Record :=
  match type, payload with
  | 0, bytes => .ok (.data offset bytes)
  | 1, [] => .ok .endOfFile
  | 2, [h, l] => .ok (.extendedSegment (Bytes.bigEndian [h, l]).toUInt16)
  | 3, [ch, cl, ih, il] =>
    .ok (.startSegment (Bytes.bigEndian [ch, cl]).toUInt16 (Bytes.bigEndian [ih, il]).toUInt16)
  | 4, [h, l] => .ok (.extendedLinear (Bytes.bigEndian [h, l]).toUInt16)
  | 5, [a, b, c, d] => .ok (.startLinear (Bytes.bigEndian [a, b, c, d]).toUInt32)
  | 1, _ | 2, _ | 3, _ | 4, _ | 5, _ => .error .lengthForType
  | type, _ => .error (.unknownType type)

/-- The record in the bytes of a line, the checksum among them. -/
def ofBytes (bytes : Bytes) : Except RecordFlaw Record :=
  let body := bytes.dropLast
  let stated := bytes.getLastD 0
  if checksum body ≠ stated then .error (.checksum (checksum body) stated)
  else match body with
    | length :: high :: low :: type :: payload =>
      if payload.length ≠ length.toNat then .error .lengthMismatch
      else ofParts type (Bytes.bigEndian [high, low]).toUInt16 payload
    | _ => .error .tooShort

def ofLine (line : List Char) : Except RecordFlaw Record :=
  match line with
  | ':' :: digits =>
    match digits.all fun c => (Hexadecimal.value? c).isSome with
    | false => .error .badCharacter
    | true =>
      if digits.length < fewestDigits then .error .tooShort
      else if mostDigits < digits.length then .error .tooLong
      else match Hexadecimal.pairs? digits with
        | none => .error .oddCount
        | some bytes => ofBytes bytes
  | _ => .error .noStartCode

end Record

/-- The records of a text up to the first that ends the file, or the flaw of the line in front of
which reading stops. Empty lines are skipped. -/
def records : List (List Char) → Except RecordFlaw (List Record)
  | [] => .ok []
  | line :: rest =>
    if line.isEmpty then records rest
    else match Record.ofLine line with
      | .error flaw => .error flaw
      | .ok .endOfFile => .ok []
      | .ok record => (record :: ·) <$> records rest

end Shdlc.Image
