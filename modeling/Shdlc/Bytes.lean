/-! Byte strings: their sum, and numbers written in them with the high or the low byte first. -/
namespace Shdlc

/-- What travels on a line. -/
abbrev Bytes := List UInt8

namespace Bytes

/-- The sum of all bytes modulo 256. -/
def total (bs : Bytes) : UInt8 := bs.foldl (· + ·) 0

private theorem foldl_add (bs : Bytes) (start : UInt8) :
    bs.foldl (· + ·) start = start + total bs := by
  induction bs generalizing start with
  | nil => simp [total]
  | cons b rest ih => simp [total, ih (start + b), ih b, UInt8.add_assoc]

@[simp] theorem total_nil : total [] = 0 := rfl

@[simp] theorem total_cons (b : UInt8) (rest : Bytes) : total (b :: rest) = b + total rest := by
  have h := foldl_add rest b
  simpa [total] using h

@[simp] theorem total_append (a b : Bytes) : total (a ++ b) = total a + total b := by
  induction a with
  | nil => simp
  | cons x rest ih => simp [ih, UInt8.add_assoc]

/-- The number whose base 256 digits are `bs`, the highest first. -/
def bigEndian (bs : Bytes) : Nat := bs.foldl (fun n b => 256 * n + b.toNat) 0

/-- The number whose base 256 digits are `bs`, the lowest first. -/
def littleEndian (bs : Bytes) : Nat := bs.foldr (fun b n => b.toNat + 256 * n) 0

/-- The two bytes of `n`, the high one first. -/
def ofUInt16 (n : UInt16) : Bytes := [(n >>> 8).toUInt8, n.toUInt8]

/-- The four bytes of `n`, the high one first. -/
def ofUInt32 (n : UInt32) : Bytes :=
  [(n >>> 24).toUInt8, (n >>> 16).toUInt8, (n >>> 8).toUInt8, n.toUInt8]

theorem bigEndian_ofUInt16 (n : UInt16) : bigEndian (ofUInt16 n) = n.toNat := by
  have hn := n.toNat_lt
  simp only [bigEndian, ofUInt16, List.foldl_cons, List.foldl_nil, UInt16.toNat_toUInt8,
    UInt16.toNat_shiftRight, UInt16.reduceToNat, Nat.reduceMod, Nat.shiftRight_eq_div_pow]
  omega

theorem bigEndian_ofUInt32 (n : UInt32) : bigEndian (ofUInt32 n) = n.toNat := by
  have hn := n.toNat_lt
  simp only [bigEndian, ofUInt32, List.foldl_cons, List.foldl_nil, UInt32.toNat_toUInt8,
    UInt32.toNat_shiftRight, UInt32.reduceToNat, Nat.reduceMod, Nat.shiftRight_eq_div_pow]
  omega

theorem toUInt16_bigEndian (n : UInt16) : (bigEndian (ofUInt16 n)).toUInt16 = n := by
  rw [bigEndian_ofUInt16]
  exact UInt16.ofNat_toNat

theorem toUInt32_bigEndian (n : UInt32) : (bigEndian (ofUInt32 n)).toUInt32 = n := by
  rw [bigEndian_ofUInt32]
  exact UInt32.ofNat_toNat

/-- The bytes cut into pieces of `size`, the last of which may be shorter. -/
def pieces (size : Nat) (h : 0 < size := by decide) : Bytes → List Bytes
  | [] => []
  | b :: rest => (b :: rest).take size :: pieces size h ((b :: rest).drop size)
termination_by bs => bs.length
decreasing_by
  simp only [List.length_drop, List.length_cons]
  omega

@[simp] theorem pieces_nil (size : Nat) (h : 0 < size) : pieces size h [] = [] := by
  simp [pieces]

/-- Cutting loses nothing. -/
theorem flatten_pieces (size : Nat) (h : 0 < size) (bs : Bytes) :
    (pieces size h bs).flatten = bs := by
  fun_induction pieces size h bs with
  | case1 => rfl
  | case2 b rest ih => rw [List.flatten_cons, ih, List.take_append_drop]

theorem length_le_of_mem_pieces {size : Nat} {h : 0 < size} {bs piece : Bytes}
    (hp : piece ∈ pieces size h bs) : piece.length ≤ size := by
  fun_induction pieces size h bs with
  | case1 => simp at hp
  | case2 b rest ih =>
    rcases List.mem_cons.1 hp with rfl | hp
    · exact List.length_take_le ..
    · exact ih hp

theorem length_pos_of_mem_pieces {size : Nat} {h : 0 < size} {bs piece : Bytes}
    (hp : piece ∈ pieces size h bs) : 0 < piece.length := by
  fun_induction pieces size h bs with
  | case1 => simp at hp
  | case2 b rest ih =>
    rcases List.mem_cons.1 hp with rfl | hp
    · rw [List.length_take, List.length_cons]
      omega
    · exact ih hp

theorem length_eq_of_mem_dropLast_pieces {size : Nat} {h : 0 < size} {bs piece : Bytes}
    (hp : piece ∈ (pieces size h bs).dropLast) : piece.length = size := by
  fun_induction pieces size h bs with
  | case1 => simp at hp
  | case2 b rest ih =>
    cases hd : (b :: rest).drop size with
    | nil =>
      rw [hd, pieces_nil] at hp
      simp at hp
    | cons c more =>
      have hlen := congrArg List.length hd
      have hne : pieces size h (c :: more) ≠ [] := by
        rw [pieces]
        exact List.cons_ne_nil _ _
      rw [hd] at hp ih
      rw [List.dropLast_cons_of_ne_nil hne] at hp
      rcases List.mem_cons.1 hp with rfl | hp
      · rw [List.length_drop, List.length_cons, List.length_cons] at hlen
        rw [List.length_take, List.length_cons]
        omega
      · exact ih hp

theorem length_pieces (size : Nat) (h : 0 < size) (bs : Bytes) :
    (pieces size h bs).length = (bs.length + (size - 1)) / size := by
  fun_induction pieces size h bs with
  | case1 =>
    rw [List.length_nil, List.length_nil, Nat.zero_add, Nat.div_eq_of_lt (Nat.sub_one_lt_of_lt h)]
  | case2 b rest ih =>
    rw [List.length_cons, ih, List.length_drop]
    by_cases hl : (b :: rest).length ≤ size
    · have hz : (b :: rest).length - size + (size - 1) < size := by omega
      have ho : (b :: rest).length + (size - 1) = (b :: rest).length - 1 + size := by
        rw [List.length_cons]
        omega
      have hs : (b :: rest).length - 1 < size := by omega
      rw [ho, Nat.add_div_right _ h, Nat.div_eq_of_lt hz, Nat.div_eq_of_lt hs]
    · have ho : (b :: rest).length + (size - 1) =
          (b :: rest).length - size + (size - 1) + size := by omega
      rw [ho, Nat.add_div_right _ h]

end Bytes

end Shdlc
