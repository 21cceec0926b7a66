import Shdlc.Update
import Shdlc.Proofs.Decimal.Rounding
/-!
The percentages of an update. Main statement: `ofPercent_percentWritten_ne`, while an application is
written less than 100 percent are told.
-/
namespace Shdlc

open Binary64

section Percentages

theorem isRatio_eighty : IsRatio 80 (80 * 2 ^ 46) 46 where
  least := by decide
  most := by decide
  small := by decide
  bits_eq := by rfl
  unpack_eq := by rfl

theorem isRatio_ten : IsRatio 10 (10 * 2 ^ 49) 49 where
  least := by decide
  most := by decide
  small := by decide
  bits_eq := by rfl
  unpack_eq := by rfl

/-- A ratio that is hardly more than 92 is below 100. -/
theorem bits_lt_hundred {x : Float} {n i : Nat} (h : IsRatio x n i)
    (hle : n ≤ 92 * 2 ^ i + 1) : (Double.ofFloat x).bits.toNat < Double.hundred.bits.toNat := by
  have hleast := h.least
  have hmost := h.most
  have hhundred : Double.hundred.bits.toNat = 1029 * 2 ^ 52 + 0x9000000000000 := rfl
  rw [h.bits_eq, hhundred]
  -- With a lower exponent than that of 100 the significand would be too short.
  obtain hlow | rfl | hhigh : i ≤ 45 ∨ i = 46 ∨ 47 ≤ i := by omega
  · have hpow : 2 ^ i ≤ 2 ^ 45 := Nat.pow_le_pow_right (by decide) hlow
    omega
  · omega
  · omega

/-- A number of percent within the range stays as it is. -/
theorem clampPercent_of_le {x : Double} (h : x.bits.toNat ≤ Double.hundred.bits.toNat) :
    clampPercent x = x := by
  have hhundred : Double.hundred.bits.toNat = 0x4059000000000000 := rfl
  have hmagnitude : x.magnitude = x.bits.toNat := Nat.mod_eq_of_lt (by rw [Double.signBit]; omega)
  have hkey : x.key = x.bits.toNat := by
    have hpositive : x.isNegative = false := decide_eq_false (by rw [Double.signBit]; omega)
    rw [Double.key, hpositive, hmagnitude]
    rfl
  have hnumber : x.isNaN = false := by
    rw [Double.isNaN, hmagnitude, Double.infinite, Double.hidden]
    exact decide_eq_false (by omega)
  have hzero : x.lt Double.zero = false := by
    have hleast : ¬ x.key < Double.zero.key := by
      rw [hkey]
      exact Int.not_lt.2 (Int.natCast_nonneg _)
    rw [Double.lt, decide_eq_false hleast, Bool.and_false]
  have hmost : Double.hundred.lt x = false := by
    have hmost : ¬ Double.hundred.key < x.key := by
      have hhundred : Double.hundred.key = 0x4059000000000000 := rfl
      rw [hkey, hhundred]
      omega
    rw [Double.lt, decide_eq_false hmost, Bool.and_false]
  rw [clampPercent, hnumber, hzero, hmost]
  rfl

end Percentages

namespace Update

variable {written size : Nat}

/-- Each of the three roundings leads beyond its bound, but all of them not from 90 to 100. -/
theorem bits_percentWritten_lt (hpos : 0 < written) (hle : written ≤ size)
    (hsize : size < 2 ^ 53) :
    (percentWritten written size).bits.toNat < Double.hundred.bits.toNat := by
  obtain ⟨j, hwritten, hj⟩ := exists_isRatio_ofNat hpos (Nat.lt_of_le_of_lt hle hsize)
  obtain ⟨j', hwhole, -⟩ := exists_isRatio_ofNat (Nat.lt_of_lt_of_le hpos hle) hsize
  have hcross : written * 2 ^ j * 2 ^ j' ≤ size * 2 ^ j' * 2 ^ j := by
    rw [Nat.mul_right_comm size]
    exact Nat.mul_le_mul_right _ (Nat.mul_le_mul_right _ hle)
  obtain ⟨q, i, hquotient, hq⟩ := exists_isRatio_div hwritten hwhole hj hcross
  have hi : 51 < i := by
    refine Nat.lt_of_not_le fun hlow => ?_
    have hpow : 2 ^ i ≤ 2 ^ 51 := Nat.pow_le_pow_right (by decide) hlow
    have hleast := hquotient.least
    omega
  have hpow : 2 ^ 7 ≤ 2 ^ i := Nat.pow_le_pow_right (by decide) (by omega)
  -- What is done of the 80 percent is at most 81, whatever has been rounded up.
  obtain ⟨p, k, hproduct, hp⟩ := exists_isRatio_mul hquotient isRatio_eighty (by omega) (by decide)
  have hle := hp 81 <| by
    rw [Nat.pow_add, ← Nat.mul_assoc, ← Nat.mul_assoc]
    apply Nat.mul_le_mul_right
    omega
  obtain ⟨n, e, hsum, hn⟩ := exists_isRatio_add isRatio_ten hproduct (Nat.le_refl _) hle (by decide)
  exact bits_lt_hundred hsum hn

/-- While an application is written, less than 100 percent are told. -/
theorem ofPercent_percentWritten_ne (hpos : 0 < written) (hle : written ≤ size)
    (hsize : size < 2 ^ 53) :
    UpdateEvent.ofPercent (percentWritten written size) ≠ .ofPercent (percent 100) := by
  have hlt := bits_percentWritten_lt hpos hle hsize
  have hhundred : clampPercent (percent 100) = Double.hundred := by decide +kernel
  intro h
  have hclamp : clampPercent (percentWritten written size) = clampPercent (percent 100) :=
    UpdateEvent.progress.inj h
  rw [clampPercent_of_le (Nat.le_of_lt hlt), hhundred] at hclamp
  rw [hclamp] at hlt
  exact Nat.lt_irrefl _ hlt

end Update

end Shdlc
