import Std.Data.HashMap
import Shdlc.Image.Record
import Shdlc.Error
import Shdlc.Text.Lines
import Shdlc.Version
/-!
The memory that the records of an Intel HEX file describe: some addresses of 32 bits hold a byte,
the others read as `0xFF`.
-/
namespace Shdlc.Image

/-- What is known of a memory, by address. -/
structure Memory where
  bytes : Std.HashMap UInt32 UInt8 := ∅

namespace Memory

/-- What an address holds to which nothing was written. -/
def padding : UInt8 := 0xFF

def get (m : Memory) (address : UInt32) : UInt8 := m.bytes.getD address padding

def lowest? (m : Memory) : Option UInt32 := m.bytes.keys.min?

def highest? (m : Memory) : Option UInt32 := m.bytes.keys.max?

/-- Writes bytes to successive addresses; the last address is followed by the first. -/
def write (m : Memory) (address : UInt32) : Bytes → Memory
  | [] => m
  | b :: rest => write ⟨m.bytes.insert address b⟩ (address + 1) rest

/-- Follows a record, where offsets count from `base`. -/
def follow (state : UInt32 × Memory) (record : Record) : UInt32 × Memory :=
  let (base, memory) := state
  match record with
  | .data offset bytes => (base, memory.write (base + offset.toUInt32) bytes)
  | .extendedSegment segment => (segment.toUInt32 <<< 4, memory)
  | .extendedLinear upper => (upper.toUInt32 <<< 16, memory)
  | .endOfFile | .startSegment _ _ | .startLinear _ => (base, memory)

def ofRecords (records : List Record) : Memory := (records.foldl follow (0, {})).2

def ofText (text : String) : Except Error Memory :=
  match Image.records (Text.lines text.toList) with
  | .ok records => .ok (ofRecords records)
  | .error flaw => .error (.image (.record flaw))

/-- `count` bytes from `first` on, in front of others. -/
def span (m : Memory) (first : UInt32) : Nat → Bytes → Bytes
  | 0, behind => behind
  | count + 1, behind => span m first count (m.get (first + UInt32.ofNat count) :: behind)

/-- A span holds what successive addresses hold, in their order. -/
theorem span_eq (m : Memory) (first : UInt32) (count : Nat) (behind : Bytes) :
    m.span first count behind =
      (List.range count).map (fun i => m.get (first + UInt32.ofNat i)) ++ behind := by
  induction count generalizing behind with
  | zero => rfl
  | succ n ih => simp [span, ih, List.range_succ]

def maxRange : Nat := 16 * 1024 * 1024

/-- The bytes from `first` to `last`, both included, if they are not too many. -/
def range (m : Memory) (first last : UInt32) : Except Error Bytes :=
  if last < first then .ok []
  else if maxRange < last.toNat - first.toNat + 1 then
    .error (.image (.rangeTooLarge first last))
  else .ok (m.span first (last.toNat - first.toNat + 1) [])

/-- The four bytes at an address as a number, the low one first. -/
def wordAt (m : Memory) (address : UInt32) : UInt32 :=
  (Bytes.littleEndian [m.get address, m.get (address + 1), m.get (address + 2),
    m.get (address + 3)]).toUInt32

/-- The version whose minor number stands at an address and whose major number follows it. -/
def versionAt (m : Memory) (address : UInt32) : FirmwareVersion :=
  ⟨m.get (address + 1), m.get address, false⟩

end Memory

end Shdlc.Image
