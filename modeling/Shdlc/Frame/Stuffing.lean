import Shdlc.Bytes
/-!
Byte stuffing. Between the delimiters of a frame, four reserved bytes never stand for themselves:
each is written as an escape byte and itself with one bit flipped. Main statements: stuffed text
holds no delimiter, and unstuffing gives back what was stuffed.
-/
namespace Shdlc.Frame

/-- Opens and closes every frame. -/
def delimiter : UInt8 := 0x7E

/-- Announces that the next byte has its `flipped` bit changed. -/
def escape : UInt8 := 0x7D

/-- The bit in which an escaped byte differs from the byte it stands for. -/
def flipped : UInt8 := 0x20

/-- Bytes that are escaped: the delimiter, the escape byte and the two of software flow control. -/
def isReserved (b : UInt8) : Bool := b == delimiter || b == escape || b == 0x11 || b == 0x13

/-- How one byte of content is written. -/
def stuffByte (b : UInt8) : Bytes := if isReserved b then [escape, b ^^^ flipped] else [b]

/-- How content is written between delimiters. -/
def stuff (content : Bytes) : Bytes := content.flatMap stuffByte

@[simp] theorem stuff_nil : stuff [] = [] := rfl

@[simp] theorem stuff_cons (b : UInt8) (rest : Bytes) :
    stuff (b :: rest) = stuffByte b ++ stuff rest := rfl

@[simp] theorem stuff_append (a b : Bytes) : stuff (a ++ b) = stuff a ++ stuff b := by
  simp [stuff]

theorem length_stuff_le (content : Bytes) : (stuff content).length ≤ 2 * content.length := by
  induction content with
  | nil => exact Nat.le_refl 0
  | cons b rest ih =>
    have hb : (stuffByte b).length ≤ 2 := by
      unfold stuffByte
      split <;> simp
    rw [stuff_cons, List.length_append, List.length_cons]
    omega

/-- Reads stuffed content; `mask` is flipped in the next byte that is not an escape byte. Repeated
escape bytes count as one, and one at the end stands for nothing. -/
def unstuffFrom (mask : UInt8) : Bytes → Bytes
  | [] => []
  | b :: rest =>
    if b = escape then unstuffFrom flipped rest else (b ^^^ mask) :: unstuffFrom 0 rest

def unstuff (stuffed : Bytes) : Bytes := unstuffFrom 0 stuffed

@[simp] theorem unstuff_nil : unstuff [] = [] := rfl

/-- A byte is read back from its stuffed form, whatever follows. -/
theorem unstuff_stuffByte_append (b : UInt8) (rest : Bytes) :
    unstuff (stuffByte b ++ rest) = b :: unstuff rest := by
  unfold stuffByte
  split
  · next h =>
    simp only [isReserved, delimiter, escape, Bool.or_eq_true, beq_iff_eq] at h
    rcases h with ((h | h) | h) | h <;> subst h <;> rfl
  · next h =>
    have hne : b ≠ escape := by
      intro he
      simp [isReserved, he] at h
    simp [unstuff, unstuffFrom, hne]

/-- Unstuffing gives back what was stuffed. -/
@[simp] theorem unstuff_stuff (content : Bytes) : unstuff (stuff content) = content := by
  induction content with
  | nil => rfl
  | cons b rest ih => rw [stuff_cons, unstuff_stuffByte_append, ih]

/-- No reserved byte stands for itself in stuffed text, the escape byte apart. -/
theorem not_mem_stuff {b : UInt8} (hb : isReserved b) (he : b ≠ escape) (content : Bytes) :
    b ∉ stuff content := by
  induction content with
  | nil => simp
  | cons c rest ih =>
    rw [stuff_cons, List.mem_append, not_or]
    refine ⟨?_, ih⟩
    unfold stuffByte
    split
    · next hc =>
      simp only [isReserved, delimiter, escape, Bool.or_eq_true, beq_iff_eq] at hc
      simp only [List.mem_cons, List.not_mem_nil, or_false, not_or]
      refine ⟨he, ?_⟩
      rintro rfl
      rcases hc with ((hc | hc) | hc) | hc <;> subst hc <;> exact absurd hb (by decide)
    · next hc =>
      simp only [List.mem_singleton]
      rintro rfl
      exact hc hb

theorem delimiter_not_mem_stuff (content : Bytes) : delimiter ∉ stuff content :=
  not_mem_stuff (by decide) (by decide) content

end Shdlc.Frame
