import Shdlc.Frame.Envelope
import Shdlc.Error
/-! Requests, the frames a host sends. Main statement: reading back what was written. -/
namespace Shdlc

/-- A frame to a device: whom it addresses, what it asks for, and the data for it. -/
structure Request where
  address : UInt8
  command : UInt8
  data : Bytes
  length_le : data.length ≤ Frame.maxData
deriving DecidableEq, Repr

namespace Request

/-- The request with the given data, unless they do not fit into a frame. -/
def make (address command : UInt8) (data : Bytes) : Except Error Request :=
  if h : data.length ≤ Frame.maxData then .ok ⟨address, command, data, h⟩
  else .error (.payloadTooLong data.length)

/-- Content of the frame, the checksum apart. -/
def content (r : Request) : Bytes :=
  r.address :: r.command :: UInt8.ofNat r.data.length :: r.data

def encode (r : Request) : Bytes := Frame.enclose r.content

/-- Reads a complete request, as a device does. -/
def decode (raw : Bytes) : Except Error Request :=
  match Frame.contentOf raw with
  | address :: command :: length :: first :: rest =>
    let data := (first :: rest).dropLast
    if h : length.toNat = data.length then
      if (first :: rest).getLast (List.cons_ne_nil first rest) =
          Frame.checksum (address :: command :: length :: data)
      then .ok ⟨address, command, data, by
        have := length.toNat_lt
        simp only [Frame.maxData]
        omega⟩
      else .error (.response .wrongChecksum (some raw))
    else .error (.response .wrongLength (some raw))
  | _ => .error (.response .requestTooShort (some raw))

/-- A text is read as a request exactly if its first frame holds the content of the request and the
checksum that belongs to it. -/
theorem decode_eq_ok_iff (raw : Bytes) (r : Request) :
    decode raw = .ok r ↔ Frame.contentOf raw = r.content ++ [Frame.checksum r.content] := by
  obtain ⟨address, command, data, hl⟩ := r
  constructor
  · intro h
    unfold decode at h
    split at h
    · next a c length first rest hc =>
      dsimp only at h
      split at h
      · next hd =>
        split at h
        · next hs =>
          cases h
          have hw : UInt8.ofNat (first :: rest).dropLast.length = length := by
            rw [← hd, UInt8.ofNat_toNat]
          rw [hc, content, hw, ← hs]
          simp only [List.cons_append, List.dropLast_concat_getLast]
        · cases h
      · cases h
    · cases h
  · intro hc
    generalize hk : Frame.checksum (content ⟨address, command, data, hl⟩) = chk at hc
    obtain ⟨first, rest, hb, hd, hs⟩ := Frame.exists_cons_of_concat data chk
    rw [content, List.cons_append, List.cons_append, List.cons_append, hb] at hc
    unfold decode
    simp only [hc, hd, Frame.toNat_ofNat_length hl, dite_true, hs]
    exact if_pos hk.symm

/-- What was written is read back. -/
theorem decode_encode (r : Request) : decode r.encode = .ok r := by
  rw [decode_eq_ok_iff]
  simpa [encode] using Frame.contentOf_enclose [] r.content [] (by simp)

end Request

end Shdlc
