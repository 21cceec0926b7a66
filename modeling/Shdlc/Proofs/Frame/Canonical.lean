import Shdlc.Frame.Request
/-!
Canonical frames: those in which every byte is stuffed the one way in which stuffing writes it. A
reader takes more than these, a reserved byte that is not escaped for instance. Main statement:
writing and reading requests are inverse to each other on canonical frames.
-/
namespace Shdlc
namespace Frame

/-- What stands for a reserved byte behind an escape byte. -/
def escaped : Bytes := [0x5E, 0x5D, 0x31, 0x33]

/-- Stuffed text in which no delimiter and no byte of software flow control stands for itself, and
every escape byte is followed by what stands for a reserved byte. -/
structure Canonical (text : Bytes) : Prop where
  delimiter_notMem : delimiter ∉ text
  xon_notMem : 0x11 ∉ text
  xoff_notMem : 0x13 ∉ text
  escape_followed : ∀ before after, text = before ++ escape :: after →
    ∃ b ∈ escaped, after.head? = some b

private theorem flipped_mem_escaped {b : UInt8} (hb : isReserved b) : b ^^^ flipped ∈ escaped := by
  simp only [isReserved, delimiter, escape, Bool.or_eq_true, beq_iff_eq] at hb
  rcases hb with ((rfl | rfl) | rfl) | rfl <;> decide

private theorem stuffByte_flipped {b : UInt8} (hb : b ∈ escaped) :
    stuffByte (b ^^^ flipped) = [escape, b] := by
  simp only [escaped, List.mem_cons, List.not_mem_nil, or_false] at hb
  rcases hb with rfl | rfl | rfl | rfl <;> decide

private theorem escape_followed_stuff (content : Bytes) (before after : Bytes)
    (h : stuff content = before ++ escape :: after) : ∃ b ∈ escaped, after.head? = some b := by
  induction content generalizing before with
  | nil => simp at h
  | cons b rest ih =>
    rw [stuff_cons, stuffByte] at h
    split at h
    · next hb =>
      have hf := flipped_mem_escaped hb
      match before with
      | [] =>
        obtain rfl : (b ^^^ flipped) :: stuff rest = after := by simpa using h
        exact ⟨_, hf, rfl⟩
      | [_] =>
        obtain ⟨-, he, -⟩ := by simpa using h
        rw [he] at hf
        exact absurd hf (by decide)
      | _ :: _ :: more => exact ih more (by simpa using (List.cons.inj (List.cons.inj h).2).2)
    · next hb =>
      match before with
      | [] =>
        obtain ⟨rfl, -⟩ := by simpa using h
        exact absurd rfl hb
      | _ :: more => exact ih more (by simpa using (List.cons.inj h).2)

theorem canonical_stuff (content : Bytes) : Canonical (stuff content) where
  delimiter_notMem := delimiter_not_mem_stuff content
  xon_notMem := not_mem_stuff (by decide) (by decide) content
  xoff_notMem := not_mem_stuff (by decide) (by decide) content
  escape_followed := escape_followed_stuff content

namespace Canonical

theorem tail {b : UInt8} {rest : Bytes} (h : Canonical (b :: rest)) : Canonical rest where
  delimiter_notMem := fun hm => h.delimiter_notMem (List.mem_cons_of_mem b hm)
  xon_notMem := fun hm => h.xon_notMem (List.mem_cons_of_mem b hm)
  xoff_notMem := fun hm => h.xoff_notMem (List.mem_cons_of_mem b hm)
  escape_followed := fun before after he =>
    h.escape_followed (b :: before) after (by rw [he, List.cons_append])

/-- In front of canonical text, a byte that does not escape stands for itself. -/
theorem stuffByte_head {b : UInt8} {rest : Bytes} (h : Canonical (b :: rest)) (hb : b ≠ escape) :
    stuffByte b = [b] := by
  have hd : b ≠ delimiter := fun he => h.delimiter_notMem (he ▸ List.mem_cons_self)
  have hon : b ≠ 0x11 := fun he => h.xon_notMem (he ▸ List.mem_cons_self)
  have hoff : b ≠ 0x13 := fun he => h.xoff_notMem (he ▸ List.mem_cons_self)
  simp [stuffByte, isReserved, hd, hb, hon, hoff]

/-- Stuffing undoes unstuffing, also where a reader stands behind an escape byte. -/
theorem stuff_unstuffFrom {text : Bytes} (h : Canonical text) :
    stuff (unstuffFrom 0 text) = text ∧
      ∀ b ∈ escaped, text.head? = some b → stuff (unstuffFrom flipped text) = escape :: text := by
  induction text with
  | nil => exact ⟨rfl, fun b _ hh => by cases hh⟩
  | cons b rest ih =>
    obtain ⟨hplain, hflipped⟩ := ih h.tail
    constructor
    · by_cases hb : b = escape
      · subst hb
        obtain ⟨c, hc, hh⟩ := h.escape_followed [] rest rfl
        rw [unstuffFrom, if_pos rfl]
        exact hflipped c hc hh
      · rw [unstuffFrom, if_neg hb, UInt8.xor_zero, stuff_cons, h.stuffByte_head hb, hplain]
        rfl
    · intro c hc hh
      obtain rfl : b = c := by simpa using hh
      have hb : b ≠ escape := by
        rintro rfl
        exact absurd hc (by decide)
      rw [unstuffFrom, if_neg hb, stuff_cons, stuffByte_flipped hc, hplain]
      rfl

theorem stuff_unstuff {text : Bytes} (h : Canonical text) : stuff (unstuff text) = text :=
  h.stuff_unstuffFrom.1

/-- The content of a canonical frame, delimited again, is the frame. -/
theorem delimit_contentOf {text : Bytes} (h : Canonical text) :
    delimit (contentOf (delimiter :: (text ++ [delimiter]))) =
      delimiter :: (text ++ [delimiter]) := by
  have he : enclosed (delimiter :: (text ++ [delimiter])) = text :=
    @enclosed_of_notMem [] text List.not_mem_nil h.delimiter_notMem []
  rw [contentOf, he, delimit, h.stuff_unstuff]

end Canonical

end Frame

namespace Request

/-- Whatever is written is read back, and a canonical frame that can be read is what is written for
the request in it. -/
theorem decode_encode_and_encode_decode :
    (∀ (address command : UInt8) (data : Bytes), data.length ≤ 255 →
      ∃ r, make address command data = .ok r ∧
        r.address = address ∧ r.command = command ∧ r.data = data ∧ decode r.encode = .ok r) ∧
    ∀ (text : Bytes) (r : Request), Frame.Canonical text →
      decode (Frame.delimiter :: (text ++ [Frame.delimiter])) = .ok r →
        r.encode = Frame.delimiter :: (text ++ [Frame.delimiter]) := by
  constructor
  · intro address command data hl
    refine ⟨⟨address, command, data, hl⟩, ?_, rfl, rfl, rfl, decode_encode _⟩
    exact dif_pos hl
  · intro text r hc hd
    have h := (decode_eq_ok_iff _ r).1 hd
    rw [encode, Frame.enclose, ← h, hc.delimit_contentOf]

theorem decode_encode_reserved :
    (∃ r, make 0x7E 0x7D [0x11, 0x12, 0x13, 0x14] = .ok r ∧ r.address = 0x7E ∧ r.command = 0x7D ∧
      r.data = [0x11, 0x12, 0x13, 0x14] ∧ decode r.encode = .ok r) ∧
    ∃ r, decode (0x7E ::
        ([0x7D, 0x5E, 0x7D, 0x5D, 0x04, 0x7D, 0x31, 0x12, 0x7D, 0x33, 0x14, 0xB6] ++ [0x7E])) =
          .ok r ∧
      r.encode = 0x7E ::
        ([0x7D, 0x5E, 0x7D, 0x5D, 0x04, 0x7D, 0x31, 0x12, 0x7D, 0x33, 0x14, 0xB6] ++ [0x7E]) := by
  have hc : Frame.Canonical
      [0x7D, 0x5E, 0x7D, 0x5D, 0x04, 0x7D, 0x31, 0x12, 0x7D, 0x33, 0x14, 0xB6] :=
    Frame.canonical_stuff [0x7E, 0x7D, 0x04, 0x11, 0x12, 0x13, 0x14, 0xB6]
  have hd : decode (0x7E ::
      ([0x7D, 0x5E, 0x7D, 0x5D, 0x04, 0x7D, 0x31, 0x12, 0x7D, 0x33, 0x14, 0xB6] ++ [0x7E])) =
        .ok ⟨0x7E, 0x7D, [0x11, 0x12, 0x13, 0x14], by decide⟩ := rfl
  refine ⟨decode_encode_and_encode_decode.1 0x7E 0x7D _ (by decide), _, hd, ?_⟩
  exact decode_encode_and_encode_decode.2 _ _ hc hd

end Request

end Shdlc
