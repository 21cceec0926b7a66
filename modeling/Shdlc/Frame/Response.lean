import Shdlc.Frame.Envelope
import Shdlc.Error
/-!
Responses, the frames a device sends back, and the buffer in which the bytes of one gather. Main
statement: interpreting what was written, with anything but a delimiter in front and anything
behind, gives back the response.
-/
namespace Shdlc

/-- A frame from a device: who answers which command, in which state, with which data. -/
structure Response where
  address : UInt8
  command : UInt8
  state : UInt8
  data : Bytes
deriving DecidableEq, Repr, Inhabited

namespace Response

/-- Content of the frame, the checksum apart. -/
def content (r : Response) : Bytes :=
  r.address :: r.command :: r.state :: UInt8.ofNat r.data.length :: r.data

/-- The response as it is sent, unless its data do not fit into a frame. -/
def encode (r : Response) : Except Error Bytes :=
  if r.data.length ≤ Frame.maxData then .ok (Frame.enclose r.content)
  else .error (.payloadTooLong r.data.length)

/-- Reads the first frame in `raw`. -/
def decode (raw : Bytes) : Except Error Response :=
  match Frame.contentOf raw with
  | address :: command :: state :: length :: first :: rest =>
    let data := (first :: rest).dropLast
    if length.toNat = data.length then
      if (first :: rest).getLast (List.cons_ne_nil first rest) =
          Frame.checksum (address :: command :: state :: length :: data)
      then .ok ⟨address, command, state, data⟩
      else .error (.response .wrongChecksum (some raw))
    else .error (.response .wrongLength (some raw))
  | _ => .error (.response .tooShort (some raw))

/-- A text is read as a response exactly if its first frame holds the content of the response, which
fits into a frame, and the checksum that belongs to it. -/
theorem decode_eq_ok_iff (raw : Bytes) (r : Response) :
    decode raw = .ok r ↔ Frame.contentOf raw = r.content ++ [Frame.checksum r.content] ∧
      r.data.length ≤ Frame.maxData := by
  obtain ⟨address, command, state, data⟩ := r
  constructor
  · intro h
    unfold decode at h
    split at h
    · next a c s length first rest hc =>
      dsimp only at h
      split at h
      · next hd =>
        split at h
        · next hs =>
          cases h
          have hw : UInt8.ofNat (first :: rest).dropLast.length = length := by
            rw [← hd, UInt8.ofNat_toNat]
          constructor
          · rw [hc, content, hw, ← hs]
            simp only [List.cons_append, List.dropLast_concat_getLast]
          · have := length.toNat_lt
            simp only [Frame.maxData]
            omega
        · cases h
      · cases h
    · cases h
  · rintro ⟨hc, hl⟩
    generalize hk : Frame.checksum (content ⟨address, command, state, data⟩) = chk at hc
    obtain ⟨first, rest, hb, hd, hs⟩ := Frame.exists_cons_of_concat data chk
    rw [content, List.cons_append, List.cons_append, List.cons_append, List.cons_append, hb] at hc
    unfold decode
    simp only [hc, hd, Frame.toNat_ofNat_length hl, if_true, hs]
    exact if_pos hk.symm

/-- What was written is read back, whatever stands around it, a delimiter in front excepted. -/
theorem decode_enclose (r : Response) (hl : r.data.length ≤ Frame.maxData) (before after : Bytes)
    (hb : Frame.delimiter ∉ before) :
    decode (before ++ Frame.enclose r.content ++ after) = .ok r := by
  rw [decode_eq_ok_iff]
  exact ⟨Frame.contentOf_enclose before r.content after hb, hl⟩

/-- Whether the device reports, besides its answer, that it is in an error state. -/
def reportsErrorState (r : Response) : Bool := r.state &&& 0x80 != 0

/-- The code of the error with which the device refused the command; zero if it did not. -/
def errorCode (r : Response) : UInt8 := r.state &&& 0x7F

end Response

namespace Frame

/-- The most bytes of a written response: everything between its delimiters escaped. -/
def maxRaw : Nat := 1 + 2 * (4 + maxData + 1) + 1

/-- The bytes received so far. -/
structure Buffer where
  bytes : Bytes := []
deriving DecidableEq, Repr, Inhabited

namespace Buffer

def started (b : Buffer) : Bool := b.bytes.contains delimiter

def complete (b : Buffer) : Bool := 2 ≤ b.bytes.count delimiter

/-- Whether more bytes have come than a response has, and still no frame. -/
def overlong (b : Buffer) : Bool := !b.complete && maxRaw < b.bytes.length

def append (b : Buffer) (more : Bytes) : Buffer := ⟨b.bytes ++ more⟩

/-- Whether a response is complete, unless there are too many bytes for one. -/
def check (b : Buffer) : Except Error Bool :=
  if b.overlong then .error (.response .tooLong (some b.bytes)) else .ok b.complete

def interpret (b : Buffer) : Except Error Response := Response.decode b.bytes

end Buffer

end Frame

end Shdlc
