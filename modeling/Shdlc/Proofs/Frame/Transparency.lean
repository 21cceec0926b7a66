import Shdlc.Frame.Response
import Shdlc.Proofs.Frame.Canonical
/-!
What written frames look like on a line. Delimiters tell where a frame begins and ends, so they may
stand nowhere else in it, and a line with software flow control would swallow the two bytes that
stop and start the other side. Main statement: `encode_transparent`, no written frame is in the way
of either, and none is longer than what a host waits for.
-/
namespace Shdlc

namespace Frame

/-- A frame that a line carries unharmed: its only delimiters stand at its two ends, the bytes of
software flow control nowhere, and every escape byte is followed by what stands for a reserved
byte. -/
structure Transparent (raw : Bytes) : Prop where
  starts : raw.head? = some delimiter
  ends : raw.getLast? = some delimiter
  count_delimiter : raw.count delimiter = 2
  xon_notMem : 0x11 ∉ raw
  xoff_notMem : 0x13 ∉ raw
  escape_followed : ∀ before after, raw = before ++ escape :: after →
    ∃ b ∈ escaped, after.head? = some b

/-- An escape byte in delimited text is one in the text, and something of the text follows it if
something has to. -/
private theorem escape_followed_delimited {text : Bytes} (h : Canonical text)
    (before after : Bytes) (hs : delimiter :: (text ++ [delimiter]) = before ++ escape :: after) :
    ∃ b ∈ escaped, after.head? = some b := by
  cases before with
  | nil => exact absurd (List.cons.inj hs).1 (by decide)
  | cons first before =>
    have ht : text ++ [delimiter] = before ++ escape :: after := (List.cons.inj hs).2
    obtain ⟨more, rfl, hm⟩ | ⟨more, rfl, hm⟩ := List.append_eq_append_iff.1 ht
    · -- The escape byte would stand behind the text, where only the delimiter does.
      have he : escape ∈ [delimiter] := hm ▸ List.mem_append_right more List.mem_cons_self
      exact absurd he (by decide)
    · cases more with
      | nil => exact absurd (List.cons.inj hm).1 (by decide)
      | cons first more =>
        rw [List.cons_append] at hm
        obtain ⟨rfl, ha⟩ := List.cons.inj hm
        obtain ⟨b, hb, hh⟩ := h.escape_followed before more rfl
        exact ⟨b, hb, by rw [ha, List.head?_append, hh, Option.some_or]⟩

theorem Canonical.transparent {text : Bytes} (h : Canonical text) :
    Transparent (delimiter :: (text ++ [delimiter])) where
  starts := rfl
  ends := by rw [← List.cons_append, List.getLast?_concat]
  count_delimiter := by
    rw [List.count_cons_self, List.count_append, List.count_eq_zero.2 h.delimiter_notMem]
    rfl
  xon_notMem := by
    have hd : (0x11 : UInt8) ≠ delimiter := by decide
    simp [h.xon_notMem, hd]
  xoff_notMem := by
    have hd : (0x13 : UInt8) ≠ delimiter := by decide
    simp [h.xoff_notMem, hd]
  escape_followed := escape_followed_delimited h

theorem transparent_enclose (content : Bytes) : Transparent (enclose content) :=
  (canonical_stuff _).transparent

theorem length_enclose_le (content : Bytes) :
    (enclose content).length ≤ 2 * (content.length + 1) + 2 := by
  have hs := length_stuff_le (content ++ [checksum content])
  rw [List.length_append, List.length_singleton] at hs
  simp only [enclose, delimit, List.length_append, List.length_cons, List.length_nil]
  omega

end Frame

/-- No written request is longer than the longest. -/
theorem Request.length_encode_le (r : Request) : r.encode.length ≤ 520 := by
  have hl : r.data.length ≤ 255 := r.length_le
  have hc : r.content.length = r.data.length + 3 := rfl
  have he := Frame.length_enclose_le r.content
  rw [encode]
  omega

/-- No written response is longer than the longest. -/
theorem Response.length_enclose_le {r : Response} (h : r.data.length ≤ Frame.maxData) :
    (Frame.enclose r.content).length ≤ Frame.maxRaw := by
  have hc : r.content.length = r.data.length + 4 := rfl
  have he := Frame.length_enclose_le r.content
  simp only [Frame.maxRaw]
  omega

namespace Frame

/-- Whatever is in a request or a response, the frame in which it is sent is transparent, and it is
not longer than the longest; a response that does not fit into a frame is not sent at all. -/
theorem encode_transparent :
    (∀ (address command : UInt8) (data : Bytes) (r : Request),
      Request.make address command data = .ok r → Transparent r.encode ∧ r.encode.length ≤ 520) ∧
    (∀ r : Response, r.data.length ≤ 255 →
      ∃ raw, r.encode = .ok raw ∧ Transparent raw ∧ raw.length ≤ maxRaw) ∧
    (∀ r : Response, 255 < r.data.length → r.encode = .error (.payloadTooLong r.data.length)) ∧
    maxRaw = 522 := by
  refine ⟨?_, ?_, ?_, rfl⟩
  · intro address command data r _
    exact ⟨transparent_enclose r.content, r.length_encode_le⟩
  · intro r hr
    exact ⟨_, if_pos hr, transparent_enclose r.content, Response.length_enclose_le hr⟩
  · intro r hr
    exact if_neg (Nat.not_le.2 hr)

/-- Frames full of reserved bytes: with few data, with the most that fit, and with one byte more. -/
theorem encode_transparent_reserved :
    (∃ r, Request.make 0x7E 0x7D [0x11, 0x12, 0x13, 0x14] = .ok r ∧ Transparent r.encode ∧
      r.encode.length ≤ 520) ∧
    (∃ raw, Response.encode ⟨0x7E, 0x7D, 0x11, List.replicate 255 0x7E⟩ = .ok raw ∧
      Transparent raw ∧ raw.length ≤ maxRaw) ∧
    Response.encode ⟨0x7E, 0x7D, 0x11, List.replicate 256 0x7E⟩ =
      .error (.payloadTooLong 256) := by
  obtain ⟨hrequest, hresponse, hoversize, -⟩ := encode_transparent
  refine ⟨⟨_, rfl, hrequest 0x7E 0x7D [0x11, 0x12, 0x13, 0x14] _ rfl⟩, ?_, ?_⟩
  · have hl : (List.replicate 255 (0x7E : UInt8)).length ≤ 255 := Nat.le_of_eq List.length_replicate
    exact hresponse ⟨0x7E, 0x7D, 0x11, List.replicate 255 0x7E⟩ hl
  · have hl : (List.replicate 256 (0x7E : UInt8)).length = 256 := List.length_replicate
    have hlong : 255 < (List.replicate 256 (0x7E : UInt8)).length := by rw [hl]; decide
    rw [hoversize ⟨0x7E, 0x7D, 0x11, List.replicate 256 0x7E⟩ hlong, hl]

end Frame

end Shdlc
