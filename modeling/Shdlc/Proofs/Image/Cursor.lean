import Shdlc.Session
import Shdlc.Proofs.Image.Loading
/-!
Reading an image. All that readings change is a position up to which the application has been read.
Main statement: `readings_of_load`, what is read of a loaded image and what is left of it.
-/
namespace Shdlc

namespace Image

open Session

/-- The image of which the bytes in front of a position have been read. -/
def readTo (image : Image) (position : Nat) : Image :=
  { image with rest := image.application.drop position, rest_suffix := List.drop_suffix .. }

section readTo

variable (image : Image) (position : Nat)

@[simp] theorem rest_readTo : (image.readTo position).rest = image.application.drop position := rfl

@[simp] theorem available_readTo : (image.readTo position).available = image.size - position :=
  List.length_drop

theorem advance_readTo (most : Nat) :
    (image.readTo position).advance most = image.readTo (position + most) := by
  simp only [advance, readTo, List.drop_drop]

/-- The position counts for nothing from the end on. -/
theorem readTo_of_size_le (h : image.size ≤ position) :
    image.readTo position = image.readTo image.size := by
  have hnil : image.application.drop position = [] := List.drop_eq_nil_of_le h
  have hsize : image.application.drop image.size = [] := List.drop_eq_nil_of_le (Nat.le_refl _)
  simp only [readTo, hnil, hsize]

theorem readTo_zero (h : image.rest = image.application) : image.readTo 0 = image := by
  cases image
  cases h
  rfl

/-- A block is the part of the application between the position and the one after it. -/
theorem block_readTo (most : Nat) :
    (image.readTo position).block most =
      image.application.extract position (position + min most (image.size - position)) := by
  have hlen : (image.application.drop position).length = image.size - position := List.length_drop
  rw [block, rest_readTo, List.extract_eq_take_drop, Nat.add_sub_cancel_left, ← hlen]
  exact List.take_eq_take_min

theorem length_block (most : Nat) : (image.block most).length = min most image.available :=
  List.length_take

end readTo

/-- Where the application is read on after a reading. -/
def move (size position : Nat) : Reading → Nat
  | .block most => position + min most (size - position)
  | .all => size
  | .rewind => 0

theorem move_le {size position : Nat} (reading : Reading) (h : position ≤ size) :
    move size position reading ≤ size := by
  cases reading with
  | block most =>
    show position + min most (size - position) ≤ size
    omega
  | all => exact Nat.le_refl size
  | rewind => exact Nat.zero_le size

/-- A reading moves the position. -/
theorem apply_readTo (image : Image) {position : Nat} (reading : Reading)
    (h : position ≤ image.size) :
    (reading.apply (image.readTo position)).2 =
      image.readTo (move image.size position reading) := by
  cases reading with
  | block most =>
    show (image.readTo position).advance most = _
    rw [advance_readTo]
    by_cases hmost : most ≤ image.size - position
    · rw [move, Nat.min_eq_left hmost]
    · have hend : image.size ≤ position + most := by omega
      have hmove : move image.size position (.block most) = image.size := by
        show position + min most (image.size - position) = image.size
        omega
      rw [hmove, readTo_of_size_le image _ hend]
  | all =>
    show (image.readTo position).advance (image.readTo position).available = _
    rw [advance_readTo, available_readTo, Nat.add_sub_cancel' h]
    rfl
  | rewind =>
    show rewind (image.readTo position) = image.readTo 0
    simp only [rewind, readTo, List.drop_zero]

/-- The image after readings. -/
def after (image : Image) (readings : List Reading) : Image :=
  readings.foldl (fun image reading => (reading.apply image).2) image

/-- The position after readings from the start of an application. -/
def position (size : Nat) (readings : List Reading) : Nat :=
  readings.foldl (move size) 0

theorem after_append (image : Image) (earlier later : List Reading) :
    image.after (earlier ++ later) = (image.after earlier).after later :=
  List.foldl_append

theorem foldl_move_le {size start : Nat} (readings : List Reading) (h : start ≤ size) :
    readings.foldl (move size) start ≤ size := by
  induction readings generalizing start with
  | nil => exact h
  | cons reading rest ih => exact ih (move_le reading h)

/-- What readings make of an image is said by the position alone. -/
theorem after_readTo (image : Image) {start : Nat} (readings : List Reading)
    (h : start ≤ image.size) :
    (image.readTo start).after readings =
      image.readTo (readings.foldl (move image.size) start) := by
  induction readings generalizing start with
  | nil => rfl
  | cons reading rest ih =>
    show (reading.apply (image.readTo start)).2.after rest = _
    rw [apply_readTo image reading h, ih (move_le reading h)]
    rfl

/-- What readings bring, in their order: nothing where the image is read from its start again. -/
def brought (image : Image) : List Reading → List (Option Bytes)
  | [] => []
  | reading :: rest => (reading.apply image).1 :: brought (reading.apply image).2 rest

/-- What has been read so far and what is read next, since the image was last read from its start. -/
def joined (read : Bytes) : Option Bytes → Bytes
  | some data => read ++ data
  | none => []

/-- Reading adds to what was read just what it takes from what was left. -/
theorem joined_apply (image : Image) (reading : Reading) (read : Bytes)
    (h : read ++ image.rest = image.application) :
    joined read (reading.apply image).1 ++ (reading.apply image).2.rest = image.application := by
  cases reading with
  | block most =>
    show (read ++ image.rest.take most) ++ image.rest.drop most = image.application
    rw [List.append_assoc, List.take_append_drop, h]
  | all =>
    show (read ++ image.rest) ++ image.rest.drop image.available = image.application
    rw [available, List.drop_length, List.append_nil, h]
  | rewind => rfl

theorem application_apply (image : Image) (reading : Reading) :
    (reading.apply image).2.application = image.application := by
  cases reading <;> rfl

/-- What was read since the start, and what is left, make up the application. -/
theorem joined_brought (image : Image) (readings : List Reading) (read : Bytes)
    (h : read ++ image.rest = image.application) :
    (image.brought readings).foldl joined read ++ (image.after readings).rest =
      image.application := by
  induction readings generalizing image read with
  | nil => exact h
  | cons reading rest ih =>
    have hstep := joined_apply image reading read h
    rw [← application_apply image reading] at hstep ⊢
    exact ih _ _ hstep

/-- Blocks of one size move the position on by that size, as far as the end. -/
theorem foldl_move_replicate {size start most : Nat} (n : Nat) (h : start ≤ size) :
    (List.replicate n (Reading.block most)).foldl (move size) start =
      min (start + n * most) size := by
  induction n generalizing start with
  | zero =>
    show start = min (start + 0 * most) size
    omega
  | succ n ih =>
    have hnext : move size start (.block most) ≤ size := move_le _ h
    have hmul : (n + 1) * most = n * most + most := Nat.succ_mul n most
    rw [List.replicate_succ, List.foldl_cons, ih hnext, hmul]
    show min (start + min most (size - start) + n * most) size =
      min (start + (n * most + most)) size
    omega

/-- So many blocks of one size empty what is left as it takes to cover it. -/
theorem ceil_le_iff {most : Nat} (h : 1 ≤ most) (left n : Nat) :
    (left + most - 1) / most ≤ n ↔ left ≤ n * most := by
  rw [Nat.div_le_iff_le_mul_add_pred (by omega), Nat.mul_comm]
  omega

/-- How a loaded image stands after readings: what was read of it since it was last read from its
start, and the position up to which it was. -/
structure StandsAt (image now : Image) (read : Bytes) (position : Nat) : Prop where
  position_le : position ≤ image.size
  available : now.available = image.size - position
  application : now.application = image.application
  read_append_rest : read ++ now.rest = image.application
  size : now.size = image.size
  checksum : now.checksum = image.checksum
  productType : now.productType = image.productType
  bootloaderVersion : now.bootloaderVersion = image.bootloaderVersion
  applicationVersion : now.applicationVersion = image.applicationVersion
  block : ∀ most, ∃ block, ((Reading.block most).apply now).1 = some block ∧
    block = image.application.extract position (position + min most now.available) ∧
    block.length = min most now.available
  all : ∃ block, (Reading.all.apply now).1 = some block ∧
    block = image.application.extract position image.size ∧ block.length = now.available

theorem standsAt_readTo (image : Image) (read : Bytes) {position : Nat}
    (hle : position ≤ image.size)
    (hread : read ++ (image.readTo position).rest = image.application) :
    image.StandsAt (image.readTo position) read position where
  position_le := hle
  available := available_readTo image position
  application := rfl
  read_append_rest := hread
  size := rfl
  checksum := rfl
  productType := rfl
  bootloaderVersion := rfl
  applicationVersion := rfl
  block most := by
    have hblock := block_readTo image position most
    rw [← available_readTo] at hblock
    exact ⟨_, rfl, hblock, length_block _ most⟩
  all := by
    have hall : image.application.extract position image.size =
        image.application.drop position := by
      have hlen : (image.application.drop position).length = image.size - position :=
        List.length_drop
      rw [List.extract_eq_take_drop, ← hlen, List.take_length]
    exact ⟨_, rfl, hall.symm, rfl⟩

/-- How much blocks of one size leave. -/
theorem available_blocks (image : Image) {start most : Nat} (n : Nat) (h : start ≤ image.size) :
    ((image.readTo start).after (List.replicate n (.block most))).available =
      (image.readTo start).available - n * most := by
  rw [after_readTo image _ h, available_readTo, available_readTo, foldl_move_replicate n h]
  omega

/-- A block of some size is empty exactly if nothing is left. -/
theorem block_eq_nil_iff (image : Image) {most : Nat} (h : 1 ≤ most) :
    image.block most = [] ↔ image.available = 0 := by
  rw [← List.length_eq_zero_iff, length_block]
  omega

theorem rest_of_ofText {layout : Layout} {text : String} {notes told : Array Log.Note}
    {image : Image} (h : ofText layout text notes = .ok image told) :
    image.rest = image.application := by
  obtain ⟨-, _, _, _, -, -, -, -, rfl⟩ := (ofText_eq_ok_iff layout text notes image).1 ⟨told, h⟩
  rfl

/-- Nothing has been read of an image when it is loaded. -/
theorem rest_of_load {layout : Layout} {source : Source} {notes told : Array Log.Note}
    {image : Image} (h : load layout source notes = .ok image told) :
    image.rest = image.application := by
  cases source with
  | text text => exact rest_of_ofText h
  | bytes bytes =>
    obtain ⟨_, _, -, h⟩ := Work.bind_eq_ok_iff.1 h
    exact rest_of_ofText h
  | file path content =>
    obtain ⟨_, _, -, h⟩ := Work.bind_eq_ok_iff.1 h
    obtain ⟨_, _, -, h⟩ := Work.bind_eq_ok_iff.1 h
    obtain ⟨_, _, -, h⟩ := Work.bind_eq_ok_iff.1 h
    exact rest_of_ofText h

/-- After any readings of a loaded image, the next brings the bytes at the position, what was read
since the start is what stands in front of it, and the image itself is the same. Blocks of one size
use it up in as many readings as it takes to cover what is left, and are empty from then on. -/
theorem readings_of_load (layout : Layout) (source : Source) (notes told : Array Log.Note)
    (image : Image) (h : load layout source notes = .ok image told) (readings : List Reading) :
    image.StandsAt (image.after readings) ((image.brought readings).foldl joined [])
      (position image.size readings) ∧
    ∀ most n, 1 ≤ most →
      ((image.after (readings ++ List.replicate n (.block most))).available = 0 ↔
        ((image.after readings).available + most - 1) / most ≤ n) ∧
      (((Reading.block most).apply
          (image.after (readings ++ List.replicate n (.block most)))).1 = some [] ↔
        ((image.after readings).available + most - 1) / most ≤ n) := by
  have hrest := rest_of_load h
  have hle : position image.size readings ≤ image.size :=
    foldl_move_le readings (Nat.zero_le image.size)
  have hafter : image.after readings = image.readTo (position image.size readings) := by
    have hrun := after_readTo image readings (Nat.zero_le image.size)
    rw [readTo_zero image hrest] at hrun
    exact hrun
  have hread := joined_brought image readings [] hrest
  constructor
  · rw [hafter] at hread ⊢
    exact standsAt_readTo image _ hle hread
  · intro most n hmost
    have havailable :
        (image.after (readings ++ List.replicate n (.block most))).available = 0 ↔
          ((image.after readings).available + most - 1) / most ≤ n := by
      rw [after_append, ceil_le_iff hmost, hafter, available_blocks image n hle]
      omega
    refine ⟨havailable, ?_⟩
    rw [← havailable, ← block_eq_nil_iff _ hmost]
    exact Option.some_inj

/-- Of six bytes two are read again, and the other four are then read in two blocks. -/
theorem readings_of_load_crossing :
    ∃ image told, load ⟨8, 0, [0x4A, 0x47], 0⟩ (.text crossing) #[] = .ok image told ∧
      (image.brought [.block 4, .rewind, .block 0, .block 2]).foldl joined [] = [1, 2] ∧
      (image.after [.block 4, .rewind, .block 0, .block 2]).rest = [3, 4, 0xFF, 0xFF] ∧
      (image.after [.block 4, .rewind, .block 0, .block 2, .block 3]).available ≠ 0 ∧
      (image.after [.block 4, .rewind, .block 0, .block 2, .block 3, .block 3]).available = 0 := by
  have hr : Image.records (Text.lines crossing.toList) = .ok crossingRecords := by rfl
  have hadmits : Layout.Admits ⟨8, 0, [0x4A, 0x47], 0⟩ (writes 0 crossingRecords) :=
    ⟨by decide, by decide, by decide, by decide, by decide, by decide⟩
  have happ : Write.heldFrom (writes 0 crossingRecords) 2 7 = [1, 2, 3, 4, 0xFF, 0xFF] := by decide
  obtain ⟨told, h⟩ := (exists_ofText_eq_ok_iff ⟨8, 0, [0x4A, 0x47], 0⟩ crossing #[] (ofApplication
    ⟨8, 0, [0x4A, 0x47], 0⟩ (Memory.ofRecords crossingRecords) [1, 2, 3, 4, 0xFF, 0xFF])).2
    ⟨_, hr, hadmits, congrArg (ofApplication _ _) happ.symm⟩
  obtain ⟨hstands, hblocks⟩ := readings_of_load ⟨8, 0, [0x4A, 0x47], 0⟩ (.text crossing) #[] told _ h
    [.block 4, .rewind, .block 0, .block 2]
  have hleft := hstands.available
  have hone := (hblocks 3 1 (by decide)).1
  have htwo := (hblocks 3 2 (by decide)).1
  rw [hleft] at hone htwo
  exact ⟨_, told, h, rfl, List.append_cancel_left hstands.read_append_rest,
    fun h => absurd (hone.1 h) (by decide), htwo.2 (by decide)⟩

end Image

end Shdlc
