import Shdlc.Image
import Shdlc.Proofs.Image.Writes
import Shdlc.Proofs.Work
/-!
What it means for a text to be a firmware image. Main statement: `ofText_means`, which texts are
images, and which parts of the memory that they describe an image consists of.
-/
namespace Shdlc

namespace Image

namespace Loading

theorem orFail_eq_ok_iff {α : Type} {x : Except Error α} {notes told : Array Log.Note} {a : α} :
    orFail x notes = .ok a told ↔ x = .ok a ∧ told = notes := by
  cases x with
  | ok a => simp [orFail, pure, EStateM.pure, eq_comm]
  | error e => exact ⟨nofun, nofun⟩

end Loading

namespace Memory

/-- A range is read exactly if it is not too long, and then holds what was written there last. -/
theorem range_ofRecords_eq_ok_iff (records : List Record) (first last : UInt32) (bytes : Bytes) :
    (ofRecords records).range first last = .ok bytes ↔
      last.toNat + 1 - first.toNat ≤ 16 * 1024 * 1024 ∧
        bytes = Write.heldFrom (writes 0 records) first.toNat last.toNat := by
  have hlast := last.toNat_lt
  unfold range
  by_cases hl : last < first
  · have hlt := UInt32.lt_iff_toNat_lt.1 hl
    have hz : last.toNat + 1 - first.toNat = 0 := by omega
    rw [if_pos hl, Write.heldFrom, hz, Except.ok.injEq]
    exact ⟨fun h => ⟨Nat.zero_le _, h.symm⟩, fun h => h.2.symm⟩
  · have hle := UInt32.le_iff_toNat_le.1 (UInt32.not_lt.1 hl)
    have hlen : last.toNat + 1 - first.toNat = last.toNat - first.toNat + 1 := by omega
    have hbytes : (ofRecords records).span first (last.toNat - first.toNat + 1) [] =
        Write.heldFrom (writes 0 records) first.toNat last.toNat := by
      rw [span_eq, List.append_nil, Write.heldFrom, hlen]
      apply List.map_congr_left
      intro i hi
      have hi := List.mem_range.1 hi
      have ha : (first + UInt32.ofNat i).toNat = first.toNat + i := by
        rw [UInt32.toNat_add, UInt32.toNat_ofNat']
        omega
      rw [get_ofRecords, ha]
    rw [if_neg hl, hbytes, hlen]
    by_cases hm : maxRange < last.toNat - first.toNat + 1
    · rw [if_pos hm]
      constructor
      · intro h
        cases h
      · rintro ⟨h, -⟩
        simp only [maxRange] at hm
        omega
    · rw [if_neg hm, Except.ok.injEq]
      simp only [maxRange] at hm
      exact ⟨fun h => ⟨by omega, h.symm⟩, fun h => h.2.symm⟩

end Memory

/-- The image of an application in a memory, with nothing read. -/
def ofApplication (layout : Layout) (memory : Memory) (application : Bytes) : Image where
  productType := memory.wordAt layout.header
  bootloaderVersion := memory.versionAt layout.bootloaderVersion
  applicationVersion := memory.versionAt layout.applicationVersion
  application := application
  rest := application
  rest_suffix := List.suffix_refl _

/-- A text is made an image exactly if a signature is to be found, the text describes a memory in
which something was written, and the signature and the application are read from it. -/
theorem ofText_eq_ok_iff (layout : Layout) (text : String) (notes : Array Log.Note)
    (image : Image) :
    (∃ told, ofText layout text notes = .ok image told) ↔
      layout.signature ≠ [] ∧ ∃ memory highest application, Memory.ofText text = .ok memory ∧
        memory.highest? = some highest ∧
        memory.range layout.application layout.signatureEnd = .ok layout.signature ∧
        memory.range layout.header (layout.applicationEnd highest) = .ok application ∧
        image = ofApplication layout memory application := by
  constructor
  · rintro ⟨told, h⟩
    unfold ofText at h
    split at h
    · obtain ⟨_, _, h, -⟩ := Work.bind_eq_ok_iff.1 h
      cases h
    · next hs =>
      simp only [Work.bind_eq_ok_iff, Loading.orFail_eq_ok_iff] at h
      obtain ⟨memory, _, ⟨hm, rfl⟩, h⟩ := h
      cases hl : memory.lowest? with
      | none =>
        rw [hl] at h
        cases h
      | some lowest =>
        cases hh : memory.highest? with
        | none =>
          rw [hl, hh] at h
          cases h
        | some highest =>
          simp only [hl, hh, Work.bind_eq_ok_iff, Loading.orFail_eq_ok_iff] at h
          obtain ⟨_, _, -, signature, _, ⟨hr, rfl⟩, h⟩ := h
          split at h
          · obtain ⟨_, _, h, -⟩ := Work.bind_eq_ok_iff.1 h
            cases h
          · next hsig =>
            obtain rfl := Classical.not_not.1 hsig
            simp only [Work.bind_eq_ok_iff, Loading.orFail_eq_ok_iff] at h
            obtain ⟨_, _, -, _, _, -, _, _, -, _, _, -, application, _, ⟨ha, -⟩, h⟩ := h
            obtain ⟨_, _, -, _, _, -, ⟨⟩⟩ := h
            exact ⟨by simpa using hs, memory, highest, application, hm, hh, hr, ha, rfl⟩
  · rintro ⟨hs, memory, highest, application, hm, hh, hr, ha, rfl⟩
    have he : layout.signature.isEmpty = false := by simpa using hs
    cases hl : memory.lowest? with
    | none => cases hh.symm.trans ((Memory.lowest?_eq_none_iff memory).1 hl)
    | some lowest =>
      have hok : ∀ {α : Type} (a : α), Loading.orFail (.ok a) = pure a := fun _ => rfl
      simp only [ofText, he, Bool.false_eq_true, if_false, hm, hok, pure_bind, hl, hh, hr, ha,
        ne_eq, not_true_eq_false]
      exact ⟨_, rfl⟩

namespace Layout

/-- The address behind the signature, of any size. -/
def start (l : Layout) : Nat := l.application.toNat + l.signature.length

/-- The last address of the application when bytes have been written: the one in front of a
bootloader that lies above it, otherwise the highest that was written to. -/
def last (l : Layout) (ws : List Write) : Nat :=
  if l.application < l.bootloader then l.bootloader.toNat - 1 else (Write.highest? ws).getD 0

/-- Whether a memory in which bytes have been written holds an image. -/
structure Admits (l : Layout) (ws : List Write) : Prop where
  signature_ne_nil : l.signature ≠ []
  written : ws ≠ []
  signature_le : l.signature.length ≤ 16 * 1024 * 1024
  application_le : l.last ws + 1 - l.start ≤ 16 * 1024 * 1024
  start_le : l.start ≤ 0xFFFFFFFF
  signature_held : ∀ i (h : i < l.signature.length),
    l.signature[i] = Write.held ws (l.application.toNat + i)

/-- Whether an image is the one that a memory holds in which bytes have been written. What it says
of types and versions is said where these lie within the addresses of 32 bits. -/
structure Describes (l : Layout) (ws : List Write) (image : Image) : Prop where
  application : image.application = Write.heldFrom ws l.start (l.last ws)
  size : image.size = l.last ws + 1 - l.start
  checksum : image.checksum.toNat = 255 - image.application.foldr (·.toNat + ·) 0 % 256
  rest : image.rest = image.application
  productType : l.start + 3 ≤ 0xFFFFFFFF →
    image.productType.toNat = Bytes.littleEndian (Write.heldFrom ws l.start (l.start + 3))
  applicationVersion : l.start + 5 ≤ 0xFFFFFFFF →
    image.applicationVersion = ⟨Write.held ws (l.start + 5), Write.held ws (l.start + 4), false⟩
  bootloaderVersion : l.bootloader.toNat + l.versionOffset.toNat + 1 ≤ 0xFFFFFFFF →
    image.bootloaderVersion =
      ⟨Write.held ws (l.bootloader.toNat + l.versionOffset.toNat + 1),
        Write.held ws (l.bootloader.toNat + l.versionOffset.toNat), false⟩

theorem toNat_header (l : Layout) : l.header.toNat =
    min (l.application.toNat + l.signature.length % 0x100000000) 0xFFFFFFFF := by
  rw [header, saturating, UInt32.toNat_ofNat', UInt32.toNat_ofNat']
  omega

/-- A signature within the addresses of 32 bits has a length in 32 bits. -/
theorem toNat_header_of_le {l : Layout} (h : l.start ≤ 0xFFFFFFFF) : l.header.toNat = l.start := by
  rw [start] at h
  rw [toNat_header, start]
  omega

theorem toNat_signatureEnd (l : Layout) : l.signatureEnd.toNat =
    min (l.application.toNat + l.signature.length % 0x100000000) 0xFFFFFFFF - 1 := by
  rw [signatureEnd, UInt32.toNat_ofNat', toNat_header]
  omega

theorem toNat_applicationEnd (l : Layout) {ws : List Write} {highest : UInt32}
    (h : Write.highest? ws = some highest.toNat) :
    (l.applicationEnd highest).toNat = l.last ws := by
  unfold applicationEnd last
  split
  · next hl =>
    have hlt := UInt32.lt_iff_toNat_lt.1 hl
    have hle : (1 : UInt32) ≤ l.bootloader := UInt32.le_iff_toNat_le.2 (by
      show 1 ≤ l.bootloader.toNat
      omega)
    exact UInt32.toNat_sub_of_le _ _ hle
  · rw [h]
    rfl

/-- A signature is read that lies within the addresses of 32 bits and is the right one. -/
theorem range_signature_iff (l : Layout) (hs : l.signature ≠ []) (records : List Record) :
    (Memory.ofRecords records).range l.application l.signatureEnd = .ok l.signature ↔
      l.signature.length ≤ 16 * 1024 * 1024 ∧ l.start ≤ 0xFFFFFFFF ∧
        ∀ i (h : i < l.signature.length),
          l.signature[i] = Write.held (writes 0 records) (l.application.toNat + i) := by
  have hpos := List.length_pos_iff.2 hs
  have happ := l.application.toNat_lt
  rw [Memory.range_ofRecords_eq_ok_iff, Write.eq_heldFrom_iff, toNat_signatureEnd]
  constructor
  · rintro ⟨hle, hlen, hb⟩
    have hstart : l.start ≤ 0xFFFFFFFF := by
      rw [start]
      omega
    exact ⟨by rw [hlen]; exact hle, hstart, hb⟩
  · rintro ⟨hle, hstart, hb⟩
    have hlen : l.signature.length =
        min (l.application.toNat + l.signature.length % 0x100000000) 0xFFFFFFFF - 1 + 1 -
          l.application.toNat := by
      rw [start] at hstart
      omega
    exact ⟨by rw [← hlen]; exact hle, hlen, hb⟩

end Layout

theorem Memory.ofText_eq_ok_iff (text : String) (memory : Memory) :
    Memory.ofText text = .ok memory ↔
      ∃ records, Image.records (Text.lines text.toList) = .ok records ∧
        memory = ofRecords records := by
  unfold Memory.ofText
  cases Image.records (Text.lines text.toList) with
  | ok records => simp [eq_comm]
  | error flaw => simp

theorem toNat_total (bs : Bytes) : (Bytes.total bs).toNat = bs.foldr (·.toNat + ·) 0 % 256 := by
  induction bs with
  | nil => rfl
  | cons b rest ih =>
    rw [Bytes.total_cons, UInt8.toNat_add, ih, List.foldr_cons]
    exact Nat.add_mod_mod _ _ 256

theorem toNat_checksum (image : Image) :
    image.checksum.toNat = 255 - image.application.foldr (·.toNat + ·) 0 % 256 := by
  rw [checksum, UInt8.toNat_not, toNat_total]
  rfl

namespace Memory

variable {records : List Record} {address : UInt32}

theorem toNat_add_of_le {n : Nat} (h : address.toNat + n ≤ 0xFFFFFFFF) :
    (address + UInt32.ofNat n).toNat = address.toNat + n := by
  rw [UInt32.toNat_add, UInt32.toNat_ofNat']
  omega

/-- Four bytes are read from successive addresses, where zero comes behind the greatest. -/
theorem toNat_wordAt_eq (address : UInt32) :
    ((ofRecords records).wordAt address).toNat = Bytes.littleEndian ((List.range 4).map fun i =>
      Write.held (writes 0 records) ((address.toNat + i) % 0x100000000)) := by
  have hbyte : ∀ i, (ofRecords records).get (address + UInt32.ofNat i) =
      Write.held (writes 0 records) ((address.toNat + i) % 0x100000000) := by
    intro i
    have hadd : (address + UInt32.ofNat i).toNat = (address.toNat + i) % 0x100000000 := by
      rw [UInt32.toNat_add, UInt32.toNat_ofNat']
      exact Nat.add_mod_mod _ _ _
    rw [get_ofRecords, hadd]
  have hfirst : address = address + UInt32.ofNat 0 := (UInt32.add_zero address).symm
  have hfour : [(ofRecords records).get address, (ofRecords records).get (address + 1),
      (ofRecords records).get (address + 2), (ofRecords records).get (address + 3)] =
        (List.range 4).map fun i =>
          Write.held (writes 0 records) ((address.toNat + i) % 0x100000000) := by
    rw [← List.map_congr_left fun i _ => hbyte i]
    exact congrArg (fun first => (ofRecords records).get first :: _) hfirst
  have hlt : ∀ a b c d : UInt8, Bytes.littleEndian [a, b, c, d] < UInt32.size := by
    intro a b c d
    have ha := a.toNat_lt
    have hb := b.toNat_lt
    have hc := c.toNat_lt
    have hd := d.toNat_lt
    simp only [Bytes.littleEndian, List.foldr_cons, List.foldr_nil, UInt32.size]
    omega
  rw [wordAt, ← hfour]
  exact UInt32.toNat_ofNat_of_lt' (hlt _ _ _ _)

theorem toNat_wordAt (h : address.toNat + 3 ≤ 0xFFFFFFFF) :
    ((ofRecords records).wordAt address).toNat =
      Bytes.littleEndian (Write.heldFrom (writes 0 records) address.toNat (address.toNat + 3)) := by
  have hfour : address.toNat + 3 + 1 - address.toNat = 4 := by omega
  rw [toNat_wordAt_eq, Write.heldFrom, hfour]
  refine congrArg Bytes.littleEndian (List.map_congr_left fun i hi => ?_)
  have hlt := List.mem_range.1 hi
  rw [Nat.mod_eq_of_lt (by omega)]

theorem versionAt_eq (h : address.toNat + 1 ≤ 0xFFFFFFFF) :
    (ofRecords records).versionAt address =
      ⟨Write.held (writes 0 records) (address.toNat + 1),
        Write.held (writes 0 records) address.toNat, false⟩ := by
  have hnext : (address + 1).toNat = address.toNat + 1 := toNat_add_of_le h
  simp only [versionAt, get_ofRecords, hnext]

end Memory

/-- The image of the application in a memory of records is the one that it holds. -/
theorem Layout.describes_ofApplication (l : Layout) (records : List Record)
    (hstart : l.start ≤ 0xFFFFFFFF) :
    l.Describes (writes 0 records) (ofApplication l (Memory.ofRecords records)
      (Write.heldFrom (writes 0 records) l.start (l.last (writes 0 records)))) := by
  have hheader := toNat_header_of_le hstart
  refine ⟨rfl, Write.length_heldFrom _ _ _, toNat_checksum _, rfl, ?_, ?_, ?_⟩
  · intro h
    rw [← hheader] at h ⊢
    exact Memory.toNat_wordAt h
  · intro h
    have ha : l.applicationVersion.toNat = l.start + 4 := by
      rw [Layout.applicationVersion, saturating, UInt32.toNat_ofNat', hheader]
      omega
    have hv := @Memory.versionAt_eq records l.applicationVersion (by rw [ha]; exact h)
    rw [ha] at hv
    exact hv
  · intro h
    have hb : l.bootloaderVersion.toNat = l.bootloader.toNat + l.versionOffset.toNat := by
      rw [Layout.bootloaderVersion, saturating, UInt32.toNat_ofNat']
      omega
    have hv := @Memory.versionAt_eq records l.bootloaderVersion (by rw [hb]; exact h)
    rw [hb] at hv
    exact hv

/-- When something was written and the signature lies within the addresses of 32 bits, the
application is read exactly if it is not too long. -/
theorem range_application_iff (layout : Layout) {records : List Record} {highest : UInt32}
    (hh : (Memory.ofRecords records).highest? = some highest) (hs : layout.start ≤ 0xFFFFFFFF)
    (application : Bytes) :
    (Memory.ofRecords records).range layout.header (layout.applicationEnd highest) =
        .ok application ↔
      layout.last (writes 0 records) + 1 - layout.start ≤ 16 * 1024 * 1024 ∧
        application =
          Write.heldFrom (writes 0 records) layout.start (layout.last (writes 0 records)) := by
  have hhighest : Write.highest? (writes 0 records) = some highest.toNat := by
    rw [← Memory.highest?_ofRecords, hh]
    rfl
  rw [Memory.range_ofRecords_eq_ok_iff, layout.toNat_applicationEnd hhighest,
    Layout.toNat_header_of_le hs]

/-- An image is made of a text exactly if the text is one of records that describe a memory with an
image, and that is the image. -/
theorem exists_ofText_eq_ok_iff (layout : Layout) (text : String) (notes : Array Log.Note)
    (image : Image) :
    (∃ told, ofText layout text notes = .ok image told) ↔
      ∃ records, Image.records (Text.lines text.toList) = .ok records ∧
        layout.Admits (writes 0 records) ∧
        image = ofApplication layout (Memory.ofRecords records)
          (Write.heldFrom (writes 0 records) layout.start (layout.last (writes 0 records))) := by
  rw [ofText_eq_ok_iff]
  constructor
  · rintro ⟨hne, memory, highest, application, hm, hh, hsig, happ, rfl⟩
    obtain ⟨records, hr, rfl⟩ := (Memory.ofText_eq_ok_iff text memory).1 hm
    obtain ⟨hle, hstart, hheld⟩ := (layout.range_signature_iff hne records).1 hsig
    obtain ⟨hlen, rfl⟩ := (range_application_iff layout hh hstart application).1 happ
    have hw : writes 0 records ≠ [] := by
      intro hnil
      have hmap := Memory.highest?_ofRecords records
      rw [hh, hnil] at hmap
      cases hmap
    exact ⟨records, hr, ⟨hne, hw, hle, hlen, hstart, hheld⟩, rfl⟩
  · rintro ⟨records, hr, hadmits, rfl⟩
    have hsig := (layout.range_signature_iff hadmits.signature_ne_nil records).2
      ⟨hadmits.signature_le, hadmits.start_le, hadmits.signature_held⟩
    cases hh : (Memory.ofRecords records).highest? with
    | none =>
      have hmap := Memory.highest?_ofRecords records
      rw [hh, eq_comm, Option.map_none, Write.highest?, List.max?_eq_none_iff,
        List.map_eq_nil_iff] at hmap
      exact absurd hmap hadmits.written
    | some highest =>
      have happ := (range_application_iff layout hh hadmits.start_le _).2
        ⟨hadmits.application_le, rfl⟩
      exact ⟨hadmits.signature_ne_nil, _, highest, _,
        (Memory.ofText_eq_ok_iff text _).2 ⟨records, hr, rfl⟩, hh, hsig, happ, rfl⟩

/-- A text is made an image exactly if it describes a memory that holds one, and then that one. -/
theorem ofText_means (layout : Layout) (text : String) (notes : Array Log.Note) :
    ((∃ image told, ofText layout text notes = .ok image told) ↔
      ∃ records, Image.records (Text.lines text.toList) = .ok records ∧
        layout.Admits (writes 0 records)) ∧
    ∀ image told records, ofText layout text notes = .ok image told →
      Image.records (Text.lines text.toList) = .ok records →
      layout.Describes (writes 0 records) image := by
  simp only [exists_ofText_eq_ok_iff]
  constructor
  · constructor
    · rintro ⟨image, records, hr, hadmits, -⟩
      exact ⟨records, hr, hadmits⟩
    · rintro ⟨records, hr, hadmits⟩
      exact ⟨_, records, hr, hadmits, rfl⟩
  · intro image told records h hr
    obtain ⟨records', hr', hadmits, rfl⟩ :=
      (exists_ofText_eq_ok_iff layout text notes image).1 ⟨told, h⟩
    cases hr.symm.trans hr'
    exact layout.describes_ofApplication records hadmits.start_le

/-- Writes across the greatest address, and twice to one. -/
def crossing : String :=
  ":02000004FFFFFC\n:03FFFF00004A991C\n:020000020000FC\n:050001004701020304A9\n:00000001FF"

def crossingRecords : List Record :=
  [.extendedLinear 0xFFFF, .data 0xFFFF [0, 0x4A, 0x99], .extendedSegment 0,
    .data 1 [0x47, 1, 2, 3, 4]]

/-- The application ends in front of the bootloader, at addresses to which nothing was written. -/
theorem ofText_means_crossing :
    ∃ image told, ofText ⟨8, 0, [0x4A, 0x47], 0⟩ crossing #[] = .ok image told ∧
      image.application = [1, 2, 3, 4, 0xFF, 0xFF] ∧ image.checksum = 0xF7 ∧
      image.productType = 0x04030201 := by
  have hr : Image.records (Text.lines crossing.toList) = .ok crossingRecords := by rfl
  have hadmits : Layout.Admits ⟨8, 0, [0x4A, 0x47], 0⟩ (writes 0 crossingRecords) :=
    ⟨by decide, by decide, by decide, by decide, by decide, by decide⟩
  obtain ⟨hiff, hmeans⟩ := ofText_means ⟨8, 0, [0x4A, 0x47], 0⟩ crossing #[]
  obtain ⟨image, told, h⟩ := hiff.2 ⟨_, hr, hadmits⟩
  obtain ⟨ha, -, hc, -, ht, -, -⟩ := hmeans image told _ h hr
  have happ : image.application = [1, 2, 3, 4, 0xFF, 0xFF] := ha.trans (by decide)
  refine ⟨image, told, h, happ, ?_, ?_⟩
  · rw [happ] at hc
    exact UInt8.toNat_inj.1 hc
  · exact UInt32.toNat_inj.1 ((ht (by decide)).trans (by decide))

end Image

end Shdlc
