import Shdlc.Proofs.Frame.Standing
import Shdlc.Frame.Request
/-!
Which bytes a device takes for a request. Main statement: `decode_accepts`, those in which a request
stands between the first two delimiters, and also those that break off before the second.
-/
namespace Shdlc

namespace Frame

/-- What stands behind a delimiter that is the only one. -/
theorem enclosed_of_unclosed {before inside : Bytes} (hb : delimiter ∉ before)
    (hi : delimiter ∉ inside) : enclosed (before ++ delimiter :: inside) = inside := by
  rw [enclosed_append_cons hb, ← List.append_nil inside,
    List.takeWhile_append_of_pos (bne_delimiter_of_notMem hi), List.takeWhile_nil]

theorem enclosed_of_delimiter_notMem {bytes : Bytes} (h : delimiter ∉ bytes) :
    enclosed bytes = [] := by
  rw [enclosed, ← List.append_nil bytes, List.dropWhile_append_of_pos (bne_delimiter_of_notMem h)]
  rfl

end Frame

namespace Request

/-- The bytes are, unstuffed, the parts of the request with the length of its data before these and
a checksum at the end, and both are right. -/
def Fills (r : Request) (inside : Bytes) : Prop :=
  ∃ length check : UInt8,
    Frame.unstuff inside = [r.address, r.command, length] ++ r.data ++ [check] ∧
      length.toNat = r.data.length ∧
      check = ~~~ Bytes.total ([r.address, r.command, length] ++ r.data)

/-- The request stands in the bytes: it fills what their first two delimiters enclose. -/
def StandsIn (r : Request) (bytes : Bytes) : Prop :=
  ∃ before inside after : Bytes,
    bytes = before ++ Frame.delimiter :: (inside ++ Frame.delimiter :: after) ∧
      Frame.delimiter ∉ before ∧ Frame.delimiter ∉ inside ∧ r.Fills inside

/-- The bytes break off behind the request: it fills what stands behind their only delimiter. -/
def EndsUnclosed (r : Request) (bytes : Bytes) : Prop :=
  ∃ before inside : Bytes, bytes = before ++ Frame.delimiter :: inside ∧
    Frame.delimiter ∉ before ∧ Frame.delimiter ∉ inside ∧ r.Fills inside

variable {r : Request} {bytes : Bytes}

theorem fills_iff {inside : Bytes} :
    r.Fills inside ↔ Frame.unstuff inside = r.content ++ [Frame.checksum r.content] := by
  constructor
  · rintro ⟨length, check, hu, hl, rfl⟩
    have hlength : UInt8.ofNat r.data.length = length := by rw [← hl, UInt8.ofNat_toNat]
    rw [hu, content, hlength]
    rfl
  · intro hu
    exact ⟨_, _, hu, Frame.toNat_ofNat_length r.length_le, rfl⟩

theorem StandsIn.two_le_count (h : r.StandsIn bytes) : 2 ≤ bytes.count Frame.delimiter := by
  obtain ⟨before, inside, after, rfl, -⟩ := h
  simp only [List.count_append, List.count_cons_self]
  omega

theorem EndsUnclosed.count_eq_one (h : r.EndsUnclosed bytes) :
    bytes.count Frame.delimiter = 1 := by
  obtain ⟨before, inside, rfl, hb, hi, -⟩ := h
  rw [List.count_append, List.count_cons_self, List.count_eq_zero.2 hb, List.count_eq_zero.2 hi]

theorem decode_eq_ok_iff_standsIn_or :
    decode bytes = .ok r ↔ r.StandsIn bytes ∨ r.EndsUnclosed bytes := by
  rw [decode_eq_ok_iff, Frame.contentOf]
  constructor
  · intro hc
    by_cases hfirst : Frame.delimiter ∈ bytes
    · obtain ⟨before, rest, rfl, hb⟩ := List.eq_append_cons_of_mem hfirst
      by_cases hsecond : Frame.delimiter ∈ rest
      · obtain ⟨inside, after, rfl, hi⟩ := List.eq_append_cons_of_mem hsecond
        rw [Frame.enclosed_of_notMem hb hi] at hc
        exact .inl ⟨before, inside, after, rfl, hb, hi, fills_iff.2 hc⟩
      · rw [Frame.enclosed_of_unclosed hb hsecond] at hc
        exact .inr ⟨before, rest, rfl, hb, hsecond, fills_iff.2 hc⟩
    · rw [Frame.enclosed_of_delimiter_notMem hfirst, Frame.unstuff_nil] at hc
      cases hc
  · rintro (⟨before, inside, after, rfl, hb, hi, hf⟩ | ⟨before, inside, rfl, hb, hi, hf⟩)
    · rw [Frame.enclosed_of_notMem hb hi]
      exact fills_iff.1 hf
    · rw [Frame.enclosed_of_unclosed hb hi]
      exact fills_iff.1 hf

/-- What cannot be read as a request is flawed. -/
theorem exists_flaw_of_decode {e : Error} (h : decode bytes = .error e) :
    ∃ flaw, e = .response flaw (some bytes) := by
  unfold decode at h
  split at h
  · dsimp only at h
    split at h
    · split at h
      · cases h
      · cases h
        exact ⟨_, rfl⟩
    · cases h
      exact ⟨_, rfl⟩
  · cases h
    exact ⟨_, rfl⟩

/-- A device takes bytes for a request if the request stands in them, and if they break off behind
it, before the delimiter that ends a frame; this is the only difference to taking complete frames.
All other bytes are flawed, and are handed back as they are. -/
theorem decode_accepts (bytes : Bytes) :
    (∀ r, decode bytes = .ok r ↔ r.StandsIn bytes ∨ r.EndsUnclosed bytes) ∧
    (∀ r, (decode bytes = .ok r ↔ r.StandsIn bytes) ↔ ¬ r.EndsUnclosed bytes) ∧
    ((∃ r, decode bytes = .ok r) ∨
      ∃ flaw, decode bytes = .error (.response flaw (some bytes))) := by
  refine ⟨fun r => decode_eq_ok_iff_standsIn_or, ?_, ?_⟩
  · intro r
    rw [decode_eq_ok_iff_standsIn_or]
    constructor
    · intro h hu
      have htwo := (h.1 (.inr hu)).two_le_count
      have hone := hu.count_eq_one
      omega
    · intro hu
      rw [or_iff_left hu]
  · cases h : decode bytes with
    | ok r => exact .inl ⟨r, rfl⟩
    | error e =>
      obtain ⟨flaw, rfl⟩ := exists_flaw_of_decode h
      exact .inr ⟨flaw, rfl⟩

/-- The shortest request without the delimiter at its end is taken, and does not stand there. -/
theorem decode_accepts_unclosed :
    ¬ (decode [0x7E, 0x00, 0x00, 0x00, 0xFF] = .ok ⟨0, 0, [], Nat.zero_le _⟩ ↔
      StandsIn ⟨0, 0, [], Nat.zero_le _⟩ [0x7E, 0x00, 0x00, 0x00, 0xFF]) := by
  intro h
  exact absurd (h.1 rfl).two_le_count (by decide)

end Request

end Shdlc
