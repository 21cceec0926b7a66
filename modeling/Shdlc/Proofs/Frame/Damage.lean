import Shdlc.Frame.Request
import Shdlc.Frame.Response
/-!
Frames of which one byte is damaged. Every byte of the content counts once in its sum, so the sum
tells that one of them has changed, and the length is compared before that. Main statement:
`decode_damaged`, no frame is read in which one byte of the content is not what was written.
-/
namespace Shdlc

namespace Bytes

theorem total_set {bs : Bytes} {i : Nat} (hi : i < bs.length) (b : UInt8) :
    total (bs.set i b) + bs[i] = total bs + b := by
  induction bs generalizing i with
  | nil => cases hi
  | cons first rest ih =>
    cases i with
    | zero =>
      rw [List.set_cons_zero, List.getElem_cons_zero, total_cons, total_cons]
      ac_rfl
    | succ i =>
      have hr : i < rest.length := Nat.lt_of_succ_lt_succ hi
      have hrest : total (rest.set i b) + rest[i] = total rest + b := ih hr
      rw [List.set_cons_succ, List.getElem_cons_succ, total_cons, total_cons, UInt8.add_assoc,
        hrest, UInt8.add_assoc]

theorem total_set_ne {bs : Bytes} {i : Nat} {b : UInt8} (hi : i < bs.length) (hb : b ≠ bs[i]) :
    total (bs.set i b) ≠ total bs := by
  intro he
  have hs := total_set hi b
  rw [he] at hs
  exact hb ((UInt8.add_right_inj _).1 hs).symm

theorem exists_concat {bs : Bytes} {n : Nat} (h : bs.length = n + 1) :
    ∃ data last, bs = data ++ [last] ∧ data.length = n := by
  have hne : bs ≠ [] := by
    rintro rfl
    cases h
  refine ⟨bs.dropLast, bs.getLast hne, (List.dropLast_concat_getLast hne).symm, ?_⟩
  rw [List.length_dropLast, h, Nat.add_sub_cancel]

end Bytes

namespace Frame

/-- Content with its checksum, as it stands between the delimiters of a frame but for stuffing. -/
def sealed (content : Bytes) : Bytes := content ++ [checksum content]

/-- A checksum is right exactly if content and checksum sum to `0xFF`. -/
theorem eq_checksum_iff (content : Bytes) (check : UInt8) :
    check = checksum content ↔ Bytes.total (content ++ [check]) = 0xFF := by
  rw [Bytes.total_append, Bytes.total_cons, Bytes.total_nil, UInt8.add_zero, UInt8.add_comm,
    ← checksum_add_total content, UInt8.add_left_inj]

theorem total_sealed (content : Bytes) : Bytes.total (sealed content) = 0xFF :=
  (eq_checksum_iff content _).1 rfl

theorem total_sealed_set_ne {content : Bytes} {i : Nat} {b : UInt8}
    (hi : i < (sealed content).length) (hb : b ≠ (sealed content)[i]) :
    Bytes.total ((sealed content).set i b) ≠ 0xFF := by
  rw [← total_sealed content]
  exact Bytes.total_set_ne hi hb

theorem contentOf_delimited (bs : Bytes) : contentOf (delimit bs) = bs := by
  simpa using contentOf_delimit [] bs [] List.not_mem_nil

/-- Data and checksum with another byte in one place are as many bytes. -/
theorem exists_concat_of_set (data : Bytes) (check : UInt8) (i : Nat) (b : UInt8) :
    ∃ data' check', (data ++ [check]).set i b = data' ++ [check'] ∧ data'.length = data.length := by
  apply Bytes.exists_concat
  rw [List.length_set, List.length_append, List.length_singleton]

theorem toNat_ne_length {data : Bytes} {b : UInt8} (hb : b ≠ UInt8.ofNat data.length) :
    b.toNat ≠ data.length := by
  intro he
  rw [← he, UInt8.ofNat_toNat] at hb
  exact hb rfl

end Frame

namespace Request

variable {raw data : Bytes} {address command length check : UInt8}

theorem decode_of_wrongLength
    (hc : Frame.contentOf raw = address :: command :: length :: (data ++ [check]))
    (hl : length.toNat ≠ data.length) :
    decode raw = .error (.response .wrongLength (some raw)) := by
  obtain ⟨first, rest, hb, hd, -⟩ := Frame.exists_cons_of_concat data check
  rw [hb] at hc
  unfold decode
  simp only [hc, hd, hl, dite_false]

theorem decode_of_wrongTotal
    (hc : Frame.contentOf raw = address :: command :: length :: (data ++ [check]))
    (hl : length.toNat = data.length) (ht : Bytes.total (Frame.contentOf raw) ≠ 0xFF) :
    decode raw = .error (.response .wrongChecksum (some raw)) := by
  have hne : check ≠ Frame.checksum (address :: command :: length :: data) := by
    rw [Ne, Frame.eq_checksum_iff]
    rwa [hc] at ht
  obtain ⟨first, rest, hb, hd, hs⟩ := Frame.exists_cons_of_concat data check
  rw [hb] at hc
  unfold decode
  simp only [hc, hd, hl, hs, dite_true, if_neg hne]

/-- Where a request is damaged tells how it is refused: the length is the third byte. -/
theorem decode_delimit_set (r : Request) {i : Nat} {b : UInt8}
    (hi : i < (Frame.sealed r.content).length) (hb : b ≠ (Frame.sealed r.content)[i]) :
    decode (Frame.delimit ((Frame.sealed r.content).set i b)) =
      .error (.response (if i = 2 then .wrongLength else .wrongChecksum)
        (some (Frame.delimit ((Frame.sealed r.content).set i b)))) := by
  have ht := Frame.total_sealed_set_ne hi hb
  have hc := Frame.contentOf_delimited ((Frame.sealed r.content).set i b)
  have hlength := Frame.toNat_ofNat_length r.length_le
  rw [← hc] at ht
  match i with
  | 0 => exact decode_of_wrongTotal hc hlength ht
  | 1 => exact decode_of_wrongTotal hc hlength ht
  | 2 => exact decode_of_wrongLength hc (Frame.toNat_ne_length hb)
  | i + 3 =>
    obtain ⟨data, check, hs, hd⟩ :=
      Frame.exists_concat_of_set r.data (Frame.checksum r.content) i b
    have hparts : (Frame.sealed r.content).set (i + 3) b =
        r.address :: r.command :: UInt8.ofNat r.data.length :: (data ++ [check]) := by
      rw [← hs]
      rfl
    exact decode_of_wrongTotal (hc.trans hparts) (hlength.trans hd.symm) ht

end Request

namespace Response

variable {raw data : Bytes} {address command state length check : UInt8}

theorem decode_of_wrongLength
    (hc : Frame.contentOf raw = address :: command :: state :: length :: (data ++ [check]))
    (hl : length.toNat ≠ data.length) :
    decode raw = .error (.response .wrongLength (some raw)) := by
  obtain ⟨first, rest, hb, hd, -⟩ := Frame.exists_cons_of_concat data check
  rw [hb] at hc
  unfold decode
  simp only [hc, hd, if_neg hl]

theorem decode_of_wrongTotal
    (hc : Frame.contentOf raw = address :: command :: state :: length :: (data ++ [check]))
    (hl : length.toNat = data.length) (ht : Bytes.total (Frame.contentOf raw) ≠ 0xFF) :
    decode raw = .error (.response .wrongChecksum (some raw)) := by
  have hne : check ≠ Frame.checksum (address :: command :: state :: length :: data) := by
    rw [Ne, Frame.eq_checksum_iff]
    rwa [hc] at ht
  obtain ⟨first, rest, hb, hd, hs⟩ := Frame.exists_cons_of_concat data check
  rw [hb] at hc
  unfold decode
  simp only [hc, hd, hl, hs, if_true, if_neg hne]

/-- Where a response is damaged tells how it is refused: the length is the fourth byte. -/
theorem decode_delimit_set (r : Response) (hr : r.data.length ≤ Frame.maxData) {i : Nat} {b : UInt8}
    (hi : i < (Frame.sealed r.content).length) (hb : b ≠ (Frame.sealed r.content)[i]) :
    decode (Frame.delimit ((Frame.sealed r.content).set i b)) =
      .error (.response (if i = 3 then .wrongLength else .wrongChecksum)
        (some (Frame.delimit ((Frame.sealed r.content).set i b)))) := by
  have ht := Frame.total_sealed_set_ne hi hb
  have hc := Frame.contentOf_delimited ((Frame.sealed r.content).set i b)
  have hlength := Frame.toNat_ofNat_length hr
  rw [← hc] at ht
  match i with
  | 0 => exact decode_of_wrongTotal hc hlength ht
  | 1 => exact decode_of_wrongTotal hc hlength ht
  | 2 => exact decode_of_wrongTotal hc hlength ht
  | 3 => exact decode_of_wrongLength hc (Frame.toNat_ne_length hb)
  | i + 4 =>
    obtain ⟨data, check, hs, hd⟩ :=
      Frame.exists_concat_of_set r.data (Frame.checksum r.content) i b
    have hparts : (Frame.sealed r.content).set (i + 4) b =
        r.address :: r.command :: r.state :: UInt8.ofNat r.data.length :: (data ++ [check]) := by
      rw [← hs]
      rfl
    exact decode_of_wrongTotal (hc.trans hparts) (hlength.trans hd.symm) ht

end Response

namespace Frame

/-- A frame whose content differs in one byte from what was written is refused, by a device that
reads requests and by a host that reads responses: for its length if it is the byte that tells the
length of the data, and else for its checksum. -/
theorem decode_damaged :
    (∀ (r : Request) (i : Nat) (b : UInt8) (hi : i < (sealed r.content).length),
      b ≠ (sealed r.content)[i] →
        r.encode = delimit (sealed r.content) ∧
        Request.decode (delimit ((sealed r.content).set i b)) =
          .error (.response (if i = 2 then .wrongLength else .wrongChecksum)
            (some (delimit ((sealed r.content).set i b))))) ∧
    ∀ (r : Response) (i : Nat) (b : UInt8) (hi : i < (sealed r.content).length),
      r.data.length ≤ 255 → b ≠ (sealed r.content)[i] →
        r.encode = .ok (delimit (sealed r.content)) ∧
        Buffer.interpret ⟨delimit ((sealed r.content).set i b)⟩ =
          .error (.response (if i = 3 then .wrongLength else .wrongChecksum)
            (some (delimit ((sealed r.content).set i b)))) := by
  constructor
  · intro r i b hi hb
    exact ⟨rfl, r.decode_delimit_set hi hb⟩
  · intro r i b hi hr hb
    exact ⟨if_pos hr, r.decode_delimit_set hr hi hb⟩

/-- The address becomes a delimiter, which is written in two bytes; the length becomes another, and
so does the checksum. -/
theorem decode_damaged_reserved :
    Request.decode [0x7E, 0x7D, 0x5E, 0xD0, 0x01, 0x7D, 0x33, 0x14, 0x7E] =
        .error (.response .wrongChecksum
          (some [0x7E, 0x7D, 0x5E, 0xD0, 0x01, 0x7D, 0x33, 0x14, 0x7E])) ∧
      Buffer.interpret ⟨[0x7E, 0x07, 0xD0, 0x80, 0x7D, 0x31, 0x31, 0x76, 0x7E]⟩ =
        .error (.response .wrongLength
          (some [0x7E, 0x07, 0xD0, 0x80, 0x7D, 0x31, 0x31, 0x76, 0x7E])) ∧
      Buffer.interpret ⟨[0x7E, 0x07, 0xD0, 0x80, 0x01, 0x31, 0x7D, 0x5D, 0x7E]⟩ =
        .error (.response .wrongChecksum
          (some [0x7E, 0x07, 0xD0, 0x80, 0x01, 0x31, 0x7D, 0x5D, 0x7E])) := by
  refine ⟨?_, ?_, ?_⟩
  · exact (decode_damaged.1 ⟨7, 0xD0, [0x13], by decide⟩ 0 0x7E (by decide) (by decide)).2
  · exact (decode_damaged.2 ⟨7, 0xD0, 0x80, [0x31]⟩ 3 0x11 (by decide) (by decide) (by decide)).2
  · exact (decode_damaged.2 ⟨7, 0xD0, 0x80, [0x31]⟩ 5 0x7D (by decide) (by decide) (by decide)).2

end Frame

end Shdlc
