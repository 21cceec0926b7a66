import Shdlc.Frame.Stuffing
/-!
The envelope of a frame: a checksum after the content, the whole stuffed, a delimiter at both ends.
-/
namespace Shdlc.Frame

/-- The most data bytes of a frame. -/
def maxData : Nat := 255

/-- The complement of the byte sum, so that content and checksum sum to `0xFF`. -/
def checksum (content : Bytes) : UInt8 := ~~~(Bytes.total content)

theorem checksum_add_total (content : Bytes) : checksum content + Bytes.total content = 0xFF := by
  apply UInt8.eq_of_toBitVec_eq
  rw [checksum, UInt8.toBitVec_add, UInt8.toBitVec_not, BitVec.add_comm]
  exact BitVec.add_not_self _

/-- Bytes stuffed, between delimiters. -/
def delimit (bs : Bytes) : Bytes := delimiter :: (stuff bs ++ [delimiter])

/-- Content with its checksum, stuffed, between delimiters. -/
def enclose (content : Bytes) : Bytes := delimit (content ++ [checksum content])

/-- What stands between the first two delimiters, or after the first if there is no second. -/
def enclosed (raw : Bytes) : Bytes :=
  ((raw.dropWhile (· != delimiter)).drop 1).takeWhile (· != delimiter)

/-- The unstuffed content of the first frame in `raw`, the checksum included. -/
def contentOf (raw : Bytes) : Bytes := unstuff (enclosed raw)

theorem bne_delimiter_of_notMem {bs : Bytes} (h : delimiter ∉ bs) :
    ∀ b ∈ bs, (b != delimiter) = true := fun _ hm => bne_iff_ne.2 fun he => h (he ▸ hm)

/-- What stands behind the first delimiter, up to the next. -/
theorem enclosed_append_cons {before : Bytes} (h : delimiter ∉ before) (rest : Bytes) :
    enclosed (before ++ delimiter :: rest) = rest.takeWhile (· != delimiter) := by
  rw [enclosed, List.dropWhile_append_of_pos (bne_delimiter_of_notMem h),
    List.dropWhile_cons_of_neg (by simp), List.drop_one, List.tail_cons]

/-- What stands between two delimiters that none comes before. -/
theorem enclosed_of_notMem {before inside : Bytes} (hb : delimiter ∉ before)
    (hi : delimiter ∉ inside) (after : Bytes) :
    enclosed (before ++ delimiter :: (inside ++ delimiter :: after)) = inside := by
  rw [enclosed_append_cons hb, List.takeWhile_append_of_pos (bne_delimiter_of_notMem hi),
    List.takeWhile_cons_of_neg (by simp), List.append_nil]

/-- Reading gives back what was delimited, whatever stands around it but a delimiter in front. -/
theorem contentOf_delimit (before bs after : Bytes) (h : delimiter ∉ before) :
    contentOf (before ++ delimit bs ++ after) = bs := by
  have he : before ++ delimit bs ++ after =
      before ++ delimiter :: (stuff bs ++ delimiter :: after) := by simp [delimit]
  rw [contentOf, he, enclosed_of_notMem h (delimiter_not_mem_stuff bs), unstuff_stuff]

theorem contentOf_enclose (before content after : Bytes) (h : delimiter ∉ before) :
    contentOf (before ++ enclose content ++ after) = content ++ [checksum content] :=
  contentOf_delimit before _ after h

/-- The length of what fits into a frame is written in one byte. -/
theorem toNat_ofNat_length {data : Bytes} (h : data.length ≤ maxData) :
    (UInt8.ofNat data.length).toNat = data.length := by
  simp only [maxData] at h
  simp only [UInt8.toNat_ofNat']
  omega

/-- Bytes with one behind them begin with some byte, and the last can be told from the others. -/
theorem exists_cons_of_concat (data : Bytes) (last : UInt8) :
    ∃ first rest, data ++ [last] = first :: rest ∧ (first :: rest).dropLast = data ∧
      (first :: rest).getLast (List.cons_ne_nil first rest) = last := by
  obtain ⟨first, rest, h⟩ := List.exists_cons_of_ne_nil (List.concat_ne_nil last data)
  refine ⟨first, rest, h, ?_, ?_⟩
  · rw [← h, List.dropLast_concat]
  · simp only [← h, List.getLast_concat]

end Shdlc.Frame
