import Shdlc.Proofs.Image.Loading
import Shdlc.Proofs.Image.Spelling
/-!
What an image depends on. Main statement: `ofText_eq_of_fill`, files that put the same bytes into a
memory are loaded alike, however these are spread over records.
-/
namespace Shdlc

namespace Image

/-- Whether records put the bytes of `contents` into a memory and no others. Records may write to
one address several times if they agree on the byte. -/
def Fill (contents : UInt32 → Option UInt8) (records : List Record) : Prop :=
  ∀ address byte, contents address = some byte ↔ ⟨address.toNat, byte⟩ ∈ writes 0 records

namespace Write

theorem mem_of_last?_eq_some {ws : List Write} {address : Nat} {byte : UInt8}
    (h : last? ws address = some byte) : ⟨address, byte⟩ ∈ ws := by
  obtain ⟨w, hw, rfl⟩ := Option.map_eq_some_iff.1 h
  obtain rfl : w.address = address := by simpa using List.find?_some hw
  exact List.mem_reverse.1 (List.mem_of_find?_eq_some hw)

/-- What was written last is in the contents, and there is nothing else in them. -/
theorem last?_of_fill {contents : UInt32 → Option UInt8} {records : List Record}
    (h : Fill contents records) (address : UInt32) :
    last? (writes 0 records) address.toNat = contents address := by
  cases hl : last? (writes 0 records) address.toNat with
  | some byte => exact ((h address byte).2 (mem_of_last?_eq_some hl)).symm
  | none =>
    refine (Option.eq_none_iff_forall_ne_some.2 fun byte hc => ?_).symm
    have hm := (h address byte).1 hc
    exact (last?_ne_none_iff _ _).2 (List.mem_map.2 ⟨_, hm, rfl⟩) hl

end Write

namespace Memory

/-- Memories that hold the same bytes. -/
def Agrees (m m' : Memory) : Prop := ∀ address, m.byte? address = m'.byte? address

section Agrees

variable {m m' : Memory} (h : m.Agrees m')
include h

theorem Agrees.get (address : UInt32) : m.get address = m'.get address := by
  rw [get_eq, get_eq, h address]

theorem Agrees.range (first last : UInt32) : m.range first last = m'.range first last := by
  simp only [Memory.range, span_eq, h.get]

theorem Agrees.wordAt (address : UInt32) : m.wordAt address = m'.wordAt address := by
  simp only [Memory.wordAt, h.get]

theorem Agrees.versionAt (address : UInt32) : m.versionAt address = m'.versionAt address := by
  simp only [Memory.versionAt, h.get]

theorem Agrees.mem_keys_iff (address : UInt32) :
    address ∈ m.bytes.keys ↔ address ∈ m'.bytes.keys := by
  have ha : m.bytes[address]? = m'.bytes[address]? := h address
  rw [Std.HashMap.mem_keys, Std.HashMap.mem_keys, Std.HashMap.mem_iff_isSome_getElem?,
    Std.HashMap.mem_iff_isSome_getElem?, ha]

theorem Agrees.highest? : m.highest? = m'.highest? := by
  have := lawfulMax
  apply Option.ext
  intro address
  rw [Memory.highest?, Memory.highest?, List.max?_eq_some_iff, List.max?_eq_some_iff]
  simp only [h.mem_keys_iff]

theorem Agrees.lowest? : m.lowest? = m'.lowest? := by
  apply Option.ext
  intro address
  rw [Memory.lowest?, Memory.lowest?, List.min?_eq_some_iff, List.min?_eq_some_iff]
  simp only [h.mem_keys_iff]

end Agrees

theorem length_le_of_range_eq_ok {m : Memory} {first last : UInt32} {bytes : Bytes}
    (h : m.range first last = .ok bytes) : bytes.length ≤ maxRange := by
  unfold range at h
  split at h
  · obtain rfl : [] = bytes := Except.ok.inj h
    exact Nat.zero_le _
  · split at h
    · cases h
    · next hfits =>
      obtain rfl : m.span first (last.toNat - first.toNat + 1) [] = bytes := Except.ok.inj h
      rw [span_eq, List.append_nil, List.length_map, List.length_range]
      exact Nat.le_of_not_lt hfits

theorem agrees_of_fill {contents : UInt32 → Option UInt8} {records records' : List Record}
    (h : Fill contents records) (h' : Fill contents records') :
    (ofRecords records).Agrees (ofRecords records') := by
  intro address
  rw [byte?_ofRecords, byte?_ofRecords, Write.last?_of_fill h, Write.last?_of_fill h']

end Memory

/-- However much a file describes, an application is not longer than a range of the memory. -/
theorem size_le_of_ofText_eq_ok {layout : Layout} {text : String} {notes told : Array Log.Note}
    {image : Image} (h : ofText layout text notes = .ok image told) :
    image.size ≤ Memory.maxRange := by
  obtain ⟨-, memory, highest, application, -, -, -, happ, rfl⟩ :=
    (ofText_eq_ok_iff layout text notes image).1 ⟨told, h⟩
  exact Memory.length_le_of_range_eq_ok happ

/-- Whether an image was made of a text. Blocks of it may have been read since. -/
def IsLoaded (image : Image) : Prop :=
  ∃ layout text notes loaded told, ofText layout text notes = .ok loaded told ∧
    image.application = loaded.application

theorem IsLoaded.size_le {image : Image} (h : image.IsLoaded) : image.size ≤ Memory.maxRange := by
  obtain ⟨layout, text, notes, loaded, told, hloaded, happ⟩ := h
  rw [size, happ]
  exact size_le_of_ofText_eq_ok hloaded

/-- Loading looks at nothing of a file but the memory that it describes. -/
theorem ofText_eq_of_agrees (layout : Layout) {text text' : String} {memory memory' : Memory}
    (h : Memory.ofText text = .ok memory) (h' : Memory.ofText text' = .ok memory')
    (ha : memory.Agrees memory') : ofText layout text = ofText layout text' := by
  simp only [ofText, h, h', Loading.orFail, pure_bind, ha.lowest?, ha.highest?, ha.range, ha.wordAt,
    ha.versionAt]

/-- Two files whose records put the same bytes into a memory give the same image or fail alike, with
the same notes, for every layout. It does not matter into which records the bytes are cut, in which
order these stand, from which bases their offsets count, and which others stand among them. -/
theorem ofText_eq_of_fill (layout : Layout) (notes : Array Log.Note)
    {contents : UInt32 → Option UInt8} {text text' : String} {records records' : List Record}
    (hl : Lists (Text.lines text.toList) records) (hl' : Lists (Text.lines text'.toList) records')
    (hf : Fill contents records) (hf' : Fill contents records') :
    ofText layout text notes = ofText layout text' notes := by
  have hm := (Memory.ofText_eq_ok_iff text _).2 ⟨records, records_of_lists hl, rfl⟩
  have hm' := (Memory.ofText_eq_ok_iff text' _).2 ⟨records', records_of_lists hl', rfl⟩
  rw [ofText_eq_of_agrees layout hm hm' (Memory.agrees_of_fill hf hf')]

/-- Four bytes in one record, which goes across the greatest address. -/
def compact : String := ":02000004FFFFFC\n:04FFFF00004A47016C\n:00000001FF"

def compactRecords : List Record := [.extendedLinear 0xFFFF, .data 0xFFFF [0, 0x4A, 0x47, 1]]

/-- The same bytes in three records, with others among them that write nothing. -/
def scattered : String :=
  "\r\n".intercalate [":0400000500000008EF", "", ":0100020001fc", ":020000020000FC",
    ":020000004a476d", ":02000004fffffc", ":01FFFF000001", ":00000001FF", "behind"]

def scatteredRecords : List Record :=
  [.startLinear 8, .data 2 [1], .extendedSegment 0, .data 0 [0x4A, 0x47], .extendedLinear 0xFFFF,
    .data 0xFFFF [0]]

/-- What was written, if all that was written to an address agrees, is what is held. -/
theorem fill_of_agreeing {ws : List Write} {records : List Record}
    (hw : ∀ w ∈ writes 0 records, Write.last? ws w.address = some w.byte)
    (hm : ∀ w ∈ ws, w ∈ writes 0 records) :
    Fill (fun address => Write.last? ws address.toNat) records :=
  fun _ _ => ⟨fun h => hm _ (Write.mem_of_last?_eq_some h), hw _⟩

/-- Both files hold an image whose signature stands at the lowest addresses, and neither holds one
whose signature would go across the greatest address. -/
theorem ofText_eq_of_fill_scattered :
    ofText ⟨8, 0, [0x4A, 0x47], 0⟩ compact #[] = ofText ⟨8, 0, [0x4A, 0x47], 0⟩ scattered #[] ∧
      ofText ⟨8, 0xFFFFFFFF, [0, 0x4A], 0⟩ compact #[] =
        ofText ⟨8, 0xFFFFFFFF, [0, 0x4A], 0⟩ scattered #[] := by
  have hl : Lists (Text.lines compact.toList) compactRecords :=
    .record ⟨_, rfl, rfl⟩ (by decide) nofun <| .record ⟨_, rfl, rfl⟩ (by decide) nofun <|
      .ended ⟨_, rfl, rfl⟩
  have hlines : Text.lines scattered.toList =
      [":0400000500000008EF".toList, [], ":0100020001fc".toList, ":020000020000FC".toList,
        ":020000004a476d".toList, ":02000004fffffc".toList, ":01FFFF000001".toList,
        ":00000001FF".toList, "behind".toList] := by decide +kernel
  have hl' : Lists (Text.lines scattered.toList) scatteredRecords := by
    rw [hlines]
    exact .record ⟨_, rfl, rfl⟩ (by decide) nofun <| .empty <|
      .record ⟨_, rfl, rfl⟩ (by decide) nofun <| .record ⟨_, rfl, rfl⟩ (by decide) nofun <|
      .record ⟨_, rfl, rfl⟩ (by decide) nofun <| .record ⟨_, rfl, rfl⟩ (by decide) nofun <|
      .record ⟨_, rfl, rfl⟩ (by decide) nofun <| .ended ⟨_, rfl, rfl⟩
  have hf := @fill_of_agreeing (writes 0 compactRecords) compactRecords (by decide) (by decide)
  have hf' := @fill_of_agreeing (writes 0 compactRecords) scatteredRecords (by decide) (by decide)
  exact ⟨ofText_eq_of_fill _ _ hl hl' hf hf', ofText_eq_of_fill _ _ hl hl' hf hf'⟩

end Image

end Shdlc
