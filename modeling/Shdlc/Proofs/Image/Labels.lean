import Shdlc.Proofs.Image.Loading
/-!
Where an image has its type and its versions from. Main statement: `ofText_labels`, these are what
stands where the layout puts them exactly if nothing but `0xFF` stands at the addresses that are
read in place of those beyond 32 bits.
-/
namespace Shdlc

namespace Bytes

theorem littleEndian_inj {xs ys : Bytes} (hlen : xs.length = ys.length)
    (h : littleEndian xs = littleEndian ys) : xs = ys := by
  induction xs generalizing ys with
  | nil => exact (List.length_eq_zero_iff.1 hlen.symm).symm
  | cons x xs ih =>
    cases ys with
    | nil => cases hlen
    | cons y ys =>
      have hvalue : x.toNat + 256 * littleEndian xs = y.toNat + 256 * littleEndian ys := h
      have hx := x.toNat_lt
      have hy := y.toNat_lt
      have hfirst : x.toNat = y.toNat := by omega
      rw [UInt8.toNat_inj.1 hfirst, ih (Nat.succ.inj hlen) (by omega)]

end Bytes

namespace Image

namespace Write

variable {records : List Record} {address : Nat}

/-- Beyond the addresses of 32 bits nothing is written. -/
theorem held_of_lt (h : 0xFFFFFFFF < address) : held (writes 0 records) address = 0xFF := by
  have hnone : last? (writes 0 records) address = none := by
    refine Classical.not_not.1 fun hsome => ?_
    obtain ⟨w, hw, rfl⟩ := List.mem_map.1 ((last?_ne_none_iff _ _).1 hsome)
    have := address_lt_of_mem_writes hw
    omega
  rw [held, hnone]
  rfl

/-- A byte that is read in place of one beyond the addresses of 32 bits is right if it is `0xFF`. -/
theorem held_eq_held_iff {read : Nat} (h : address ≤ 0xFFFFFFFF → read = address) :
    held (writes 0 records) read = held (writes 0 records) address ↔
      (0xFFFFFFFF < address → held (writes 0 records) read = 0xFF) := by
  by_cases ha : address ≤ 0xFFFFFFFF
  · rw [h ha]
    exact ⟨fun _ hlt => absurd hlt (Nat.not_lt.2 ha), fun _ => rfl⟩
  · have hlt := Nat.lt_of_not_le ha
    rw [held_of_lt hlt]
    exact ⟨fun heq _ => heq, fun heq => heq hlt⟩

/-- The version at an address of any size: its minor number stands there, its major one behind. -/
def version (ws : List Write) (address : Nat) : FirmwareVersion :=
  ⟨held ws (address + 1), held ws address, false⟩

/-- The version that is read for an address of any size. In place of one beyond 32 bits the greatest
is taken, and behind the greatest comes zero. -/
def versionNear (ws : List Write) (address : Nat) : FirmwareVersion :=
  ⟨held ws ((min address 0xFFFFFFFF + 1) % 0x100000000), held ws (min address 0xFFFFFFFF), false⟩

/-- Whether only `0xFF` stands where a version is read whose address is not within 32 bits. -/
structure PadsVersion (ws : List Write) (address : Nat) : Prop where
  major : 0xFFFFFFFF < address + 1 → held ws 0 = 0xFF
  minor : 0xFFFFFFFF < address → held ws 0xFFFFFFFF = 0xFF

/-- The four bytes are right that are read from an address on, where zero comes behind the greatest,
if those in place of others are `0xFF`. -/
theorem littleEndian_near_eq_iff :
    Bytes.littleEndian
        ((List.range 4).map fun i => held (writes 0 records) ((address + i) % 0x100000000)) =
      Bytes.littleEndian (heldFrom (writes 0 records) address (address + 3)) ↔
      ∀ i < 4, 0xFFFFFFFF < address + i →
        held (writes 0 records) ((address + i) % 0x100000000) = 0xFF := by
  have hfour : address + 3 + 1 - address = 4 := by omega
  have hbytes : ∀ xs ys : Bytes, xs.length = ys.length →
      (Bytes.littleEndian xs = Bytes.littleEndian ys ↔ xs = ys) := fun xs ys hlen =>
    ⟨Bytes.littleEndian_inj hlen, congrArg Bytes.littleEndian⟩
  rw [heldFrom, hfour, hbytes _ _ (by simp), List.map_inj_left]
  refine forall_congr' fun i => ?_
  rw [List.mem_range]
  refine forall_congr' fun _ => held_eq_held_iff ?_
  omega

theorem versionNear_eq_iff :
    versionNear (writes 0 records) address = version (writes 0 records) address ↔
      PadsVersion (writes 0 records) address := by
  have hminor := @held_eq_held_iff records address (min address 0xFFFFFFFF) (by omega)
  have hmajor := @held_eq_held_iff records (address + 1)
    ((min address 0xFFFFFFFF + 1) % 0x100000000) (by omega)
  have hback : 0xFFFFFFFF < address + 1 → (min address 0xFFFFFFFF + 1) % 0x100000000 = 0 := by
    omega
  have hkept : 0xFFFFFFFF < address → min address 0xFFFFFFFF = 0xFFFFFFFF := by omega
  rw [versionNear, version, FirmwareVersion.mk.injEq, hminor, hmajor]
  constructor
  · rintro ⟨h, h', -⟩
    exact ⟨fun hlt => hback hlt ▸ h hlt, fun hlt => hkept hlt ▸ h' hlt⟩
  · rintro ⟨h, h'⟩
    exact ⟨fun hlt => (hback hlt).symm ▸ h hlt, fun hlt => (hkept hlt).symm ▸ h' hlt, rfl⟩

end Write

namespace Memory

variable {records : List Record}

theorem versionAt_saturating (address : UInt32) (offset : Nat) :
    (ofRecords records).versionAt (saturating address offset) =
      Write.versionNear (writes 0 records) (address.toNat + offset) := by
  have hnear : (saturating address offset).toNat = min (address.toNat + offset) 0xFFFFFFFF := by
    rw [saturating, UInt32.toNat_ofNat']
    omega
  have hnext : (saturating address offset + 1).toNat =
      (min (address.toNat + offset) 0xFFFFFFFF + 1) % 0x100000000 := by
    rw [UInt32.toNat_add, hnear]
    rfl
  rw [versionAt, get_ofRecords, get_ofRecords, hnear, hnext, Write.versionNear]

end Memory

namespace Layout

/-- Whether an image says of its type and its versions what stands where the layout puts them, at
addresses of any size. Nothing is written beyond those of 32 bits, so `0xFF` stands there. -/
structure Labels (l : Layout) (ws : List Write) (image : Image) : Prop where
  productType :
    image.productType.toNat = Bytes.littleEndian (Write.heldFrom ws l.start (l.start + 3))
  applicationVersion : image.applicationVersion = Write.version ws (l.start + 4)
  bootloaderVersion :
    image.bootloaderVersion = Write.version ws (l.bootloader.toNat + l.versionOffset.toNat)

/-- Whether an image says of its type and its versions what stands where these are looked for, which
is within the addresses of 32 bits. -/
structure LabelsNear (l : Layout) (ws : List Write) (image : Image) : Prop where
  productType : image.productType.toNat = Bytes.littleEndian
    ((List.range 4).map fun i => Write.held ws ((l.start + i) % 0x100000000))
  applicationVersion : image.applicationVersion = Write.versionNear ws (l.start + 4)
  bootloaderVersion :
    image.bootloaderVersion = Write.versionNear ws (l.bootloader.toNat + l.versionOffset.toNat)

/-- Whether only `0xFF` stands where a type or a version is read in place of what the layout puts
beyond the addresses of 32 bits. -/
structure PadsLabels (l : Layout) (ws : List Write) : Prop where
  productType : ∀ i < 4, 0xFFFFFFFF < l.start + i →
    Write.held ws ((l.start + i) % 0x100000000) = 0xFF
  applicationVersion : Write.PadsVersion ws (l.start + 4)
  bootloaderVersion : Write.PadsVersion ws (l.bootloader.toNat + l.versionOffset.toNat)

variable {l : Layout} {records : List Record} {image : Image}

theorem labelsNear_ofApplication (application : Bytes) (h : l.start ≤ 0xFFFFFFFF) :
    l.LabelsNear (writes 0 records) (ofApplication l (Memory.ofRecords records) application) := by
  have hheader := toNat_header_of_le h
  refine ⟨?_, ?_, Memory.versionAt_saturating _ _⟩
  · rw [← hheader]
    exact Memory.toNat_wordAt_eq _
  · rw [← hheader]
    exact Memory.versionAt_saturating l.header 4

/-- What is read near the addresses of the layout is what stands at them exactly if it is `0xFF`
where these are beyond 32 bits. -/
theorem LabelsNear.labels_iff (h : l.LabelsNear (writes 0 records) image) :
    l.Labels (writes 0 records) image ↔ l.PadsLabels (writes 0 records) := by
  have htype := @Write.littleEndian_near_eq_iff records l.start
  have happlication := @Write.versionNear_eq_iff records (l.start + 4)
  have hbootloader :=
    @Write.versionNear_eq_iff records (l.bootloader.toNat + l.versionOffset.toNat)
  rw [← h.productType] at htype
  rw [← h.applicationVersion] at happlication
  rw [← h.bootloaderVersion] at hbootloader
  constructor
  · rintro ⟨ht, ha, hb⟩
    exact ⟨htype.1 ht, happlication.1 ha, hbootloader.1 hb⟩
  · rintro ⟨ht, ha, hb⟩
    exact ⟨htype.2 ht, happlication.2 ha, hbootloader.2 hb⟩

end Layout

/-- An image has its type from successive addresses, zero behind the greatest, and a version that
would lie beyond 32 bits from the greatest address and from zero. So what it says of them is right
exactly if only `0xFF` stands where it looks for what the layout puts beyond 32 bits, as is so
whenever the layout puts nothing there. -/
theorem ofText_labels {layout : Layout} {text : String} {notes told : Array Log.Note}
    {image : Image} (h : ofText layout text notes = .ok image told) :
    ∃ records, Image.records (Text.lines text.toList) = .ok records ∧
      layout.LabelsNear (writes 0 records) image ∧
      (layout.Labels (writes 0 records) image ↔ layout.PadsLabels (writes 0 records)) := by
  obtain ⟨records, hr, hadmits, rfl⟩ :=
    (exists_ofText_eq_ok_iff layout text notes image).1 ⟨told, h⟩
  have hnear := @Layout.labelsNear_ofApplication layout records
    (Write.heldFrom (writes 0 records) layout.start (layout.last (writes 0 records)))
    hadmits.start_le
  exact ⟨records, hr, hnear, hnear.labels_iff⟩

/-- A signature in front of the greatest address, with bytes behind that come around to zero. -/
def spilling : String := ":02000004FFFFFC\n:0AFFFB004A474F4B010203040506BC\n:00000001FF"

def spillingRecords : List Record :=
  [.extendedLinear 0xFFFF, .data 0xFFFB [0x4A, 0x47, 0x4F, 0x4B, 1, 2, 3, 4, 5, 6]]

/-- A layout whose versions are beyond the addresses of 32 bits, and most of the type as well. -/
def spillingLayout : Layout where
  bootloader := 0x10
  application := 0xFFFFFFFB
  versionOffset := 0xFFFFFFFF

theorem records_spilling :
    Image.records (Text.lines spilling.toList) = .ok spillingRecords := by rfl

theorem admits_spilling : spillingLayout.Admits (writes 0 spillingRecords) :=
  ⟨by decide, by decide, by decide, by decide, by decide, by decide⟩

/-- Both versions are read from the first two bytes of the type. -/
theorem ofText_labels_spilling :
    ∃ image told, ofText spillingLayout spilling #[] = .ok image told ∧
      image.productType = 0x04030201 ∧ image.applicationVersion = ⟨2, 1, false⟩ ∧
      image.bootloaderVersion = ⟨2, 1, false⟩ := by
  obtain ⟨told, h⟩ := (exists_ofText_eq_ok_iff spillingLayout spilling #[] _).2
    ⟨_, records_spilling, admits_spilling, rfl⟩
  obtain ⟨records, hr, hnear, -⟩ := ofText_labels h
  obtain rfl : spillingRecords = records := Except.ok.inj (records_spilling.symm.trans hr)
  refine ⟨_, told, h, UInt32.toNat_inj.1 (hnear.productType.trans ?_),
    hnear.applicationVersion.trans ?_, hnear.bootloaderVersion.trans ?_⟩
  · decide
  · decide
  · decide

/-- Only the first byte of the type is within the addresses of 32 bits, and nothing of the
versions. -/
theorem not_labels_spilling :
    ∃ image told, ofText spillingLayout spilling #[] = .ok image told ∧
      Image.records (Text.lines spilling.toList) = .ok spillingRecords ∧
      ¬ spillingLayout.Labels (writes 0 spillingRecords) image := by
  obtain ⟨told, h⟩ := (exists_ofText_eq_ok_iff spillingLayout spilling #[] _).2
    ⟨_, records_spilling, admits_spilling, rfl⟩
  refine ⟨_, told, h, records_spilling, fun hlabels => ?_⟩
  have hnear := @Layout.labelsNear_ofApplication spillingLayout spillingRecords
    (Write.heldFrom (writes 0 spillingRecords) spillingLayout.start
      (spillingLayout.last (writes 0 spillingRecords))) (by decide)
  have hpads := (hnear.labels_iff.1 hlabels).productType 1 (by decide) (by decide)
  exact absurd hpads (by decide)

end Image

end Shdlc
