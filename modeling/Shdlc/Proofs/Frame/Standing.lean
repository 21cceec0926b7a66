import Shdlc.Frame.Response
/-!
Responses among other bytes, said without the functions that read them. Main statement: a response
is read exactly from the bytes in which it stands.
-/
namespace Shdlc

namespace Frame

theorem exists_split_of_count {bytes : Bytes} (h : 2 ≤ bytes.count delimiter) :
    ∃ before inside after : Bytes,
      bytes = before ++ delimiter :: (inside ++ delimiter :: after) ∧
        delimiter ∉ before ∧ delimiter ∉ inside := by
  have hfirst : delimiter ∈ bytes := List.count_pos_iff.1 (by omega)
  obtain ⟨before, rest, rfl, hb⟩ := List.eq_append_cons_of_mem hfirst
  rw [List.count_append, List.count_eq_zero_of_not_mem hb, List.count_cons_self] at h
  have hsecond : delimiter ∈ rest := List.count_pos_iff.1 (by omega)
  obtain ⟨inside, after, rfl, hi⟩ := List.eq_append_cons_of_mem hsecond
  exact ⟨before, inside, after, rfl, hb, hi⟩

end Frame

namespace Response

/-- The response stands in the bytes: what their first two delimiters enclose is, unstuffed, its
parts with the length of its data before these and a checksum at the end, and both are right. -/
def StandsIn (r : Response) (bytes : Bytes) : Prop :=
  ∃ (before inside after : Bytes) (length check : UInt8),
    bytes = before ++ Frame.delimiter :: (inside ++ Frame.delimiter :: after) ∧
      Frame.delimiter ∉ before ∧ Frame.delimiter ∉ inside ∧
      Frame.unstuff inside =
        [r.address, r.command, r.state, length] ++ r.data ++ [check] ∧
      length.toNat = r.data.length ∧
      check = ~~~ Bytes.total ([r.address, r.command, r.state, length] ++ r.data)

variable {r : Response} {bytes : Bytes}

theorem standsIn_iff :
    r.StandsIn bytes ↔ 2 ≤ bytes.count Frame.delimiter ∧ decode bytes = .ok r := by
  constructor
  · rintro ⟨before, inside, after, length, check, rfl, hb, hi, hu, hl, rfl⟩
    constructor
    · simp only [List.count_append, List.count_cons_self]
      omega
    · have hlength : UInt8.ofNat r.data.length = length := by rw [← hl, UInt8.ofNat_toNat]
      rw [decode_eq_ok_iff, Frame.contentOf, Frame.enclosed_of_notMem hb hi, hu, content, hlength]
      have := length.toNat_lt
      refine ⟨rfl, ?_⟩
      simp only [Frame.maxData]
      omega
  · rintro ⟨hc, hd⟩
    obtain ⟨before, inside, after, rfl, hb, hi⟩ := Frame.exists_split_of_count hc
    rw [decode_eq_ok_iff, Frame.contentOf, Frame.enclosed_of_notMem hb hi] at hd
    exact ⟨before, inside, after, _, _, rfl, hb, hi, hd.1, Frame.toNat_ofNat_length hd.2, rfl⟩

instance (r : Response) (bytes : Bytes) : Decidable (r.StandsIn bytes) :=
  decidable_of_iff (2 ≤ bytes.count Frame.delimiter ∧ (decode bytes).toOption = some r) (by
    rw [standsIn_iff]
    cases decode bytes <;> simp [Except.toOption])

/-- At most one response stands in the same bytes. -/
theorem StandsIn.unique {other : Response} (h : r.StandsIn bytes) (h' : other.StandsIn bytes) :
    r = other := by
  have hd := (standsIn_iff.1 h).2
  have hd' := (standsIn_iff.1 h').2
  exact Except.ok.inj (hd.symm.trans hd')

end Response

end Shdlc
