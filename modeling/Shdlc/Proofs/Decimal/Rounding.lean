import Mathlib.Algebra.Group.Nat.Defs
import Shdlc.Decimal.Double
/-!
Arithmetic in double precision, as far as rounding can lead beyond a bound. Main statements:
`exists_isRatio_div`, `exists_isRatio_mul` and `exists_isRatio_add`, a result is above a bound of
the exact one by no more than one unit in the last place.
-/
namespace Shdlc.Binary64

open Float.Model Float.Model.UnpackedFloat

/-- Whether `x` is `m / 2 ^ j`, and `m` has all the bits of a significand. -/
structure IsRatio (x : Float) (m j : Nat) : Prop where
  least : 2 ^ 52 ≤ m
  most : m < 2 ^ 53
  small : j ≤ 1074
  bits_eq : (Double.ofFloat x).bits.toNat = (1075 - j) * 2 ^ 52 + (m - 2 ^ 52)
  unpack_eq : x.toModel.unpack = .finite .positive m (-j) (Nat.lt_of_lt_of_le (by decide) least)

section Rounding

variable {m j : Nat}

theorem log2_mul_two_pow (h : 2 ^ 52 ≤ m) (h' : m < 2 ^ 53) (k : Nat) :
    (m * 2 ^ k).log2 = 52 + k := by
  have hne : m * 2 ^ k ≠ 0 := Nat.mul_ne_zero (by omega) (Nat.ne_of_gt (Nat.two_pow_pos k))
  rw [Nat.log2_eq_iff hne, Nat.add_right_comm, Nat.pow_add, Nat.pow_add]
  exact ⟨Nat.mul_le_mul_right _ h, Nat.mul_lt_mul_of_pos_right h' (Nat.two_pow_pos k)⟩

theorem log2_eq (h : 2 ^ 52 ≤ m) (h' : m < 2 ^ 53) : m.log2 = 52 := by
  rw [← Nat.mul_one m]
  exact log2_mul_two_pow h h' 0

theorem toNat_append_one (f : BitVec 52) : (1#1 ++ f).toNat = 2 ^ 52 + f.toNat := by
  rw [BitVec.toNat_append, ← Nat.shiftLeft_add_eq_or_of_lt f.isLt]
  rfl

theorem unpackSign_packComponents (e : BitVec 11) (f : BitVec 52) :
    unpackSign (packComponents Format.binary64 .positive e f) = 0#1 := by
  have h : (0#1 ++ e ++ f).extractLsb' 63 1 = 0#1 :=
    (BitVec.extractLsb'_append_eq_of_le (by decide)).trans BitVec.extractLsb'_append_eq_left
  exact h

theorem pack_eq (hm : 2 ^ 52 ≤ m) (hm' : m < 2 ^ 53) (hj : j ≤ 1074) (hpos : 0 < m) :
    UnpackedFloat.pack Format.binary64 (.finite .positive m (-j) hpos) =
      packComponents Format.binary64 .positive (BitVec.ofNat 11 (1075 - j))
        (BitVec.ofNat 52 m) := by
  have hexponent : (-(j : Int) + 1023 + 52).toNat = 1075 - j := by omega
  have hfits : ¬ 2 ^ 11 ≤ (-(j : Int) + 1023 + 52).toNat + 1 := by omega
  have hlog : m.log2 + 1 = Format.binary64.mantissaBits := by rw [log2_eq hm hm']; rfl
  rw [← hexponent]
  exact (if_neg hfits).trans (if_pos hlog)

theorem toNat_packComponents (s : Sign) (e : BitVec 11) (f : BitVec 52) :
    (packComponents Format.binary64 s e f).toNat =
      s.toBitVec.toNat * 2 ^ 63 + e.toNat * 2 ^ 52 + f.toNat := by
  have h : (s.toBitVec ++ e ++ f).toNat =
      s.toBitVec.toNat * 2 ^ 63 + e.toNat * 2 ^ 52 + f.toNat := by
    rw [BitVec.toNat_append, ← Nat.shiftLeft_add_eq_or_of_lt f.isLt, Nat.shiftLeft_eq,
      BitVec.toNat_append, ← Nat.shiftLeft_add_eq_or_of_lt e.isLt, Nat.shiftLeft_eq]
    omega
  exact h

theorem exists_unpack_packComponents {e : BitVec 11} (hleast : 0 < e.toNat) (hmost : e.toNat < 2047)
    (f : BitVec 52) :
    ∃ h, UnpackedFloat.unpack Format.binary64 (packComponents Format.binary64 .positive e f) =
      .finite .positive (2 ^ 52 + f.toNat) ((e.toNat : Int) - 1075) h := by
  generalize hb : packComponents Format.binary64 .positive e f = b
  have he : unpackExponent b = e := by rw [← hb, unpackExponent_packComponents]
  have hf : unpackMantissa b = f := by rw [← hb, unpackMantissa_packComponents]
  have hsign : unpackSign b = 0#1 := by rw [← hb, unpackSign_packComponents]
  have hone : unpackExponent b ≠ -1#11 := by
    rw [he]
    rintro rfl
    exact Nat.lt_irrefl _ hmost
  have hzero : unpackExponent b ≠ 0#11 := by
    rw [he]
    rintro rfl
    exact Nat.lt_irrefl _ hleast
  have hnormal : UnpackedFloat.unpack Format.binary64 b = _ := (if_neg hone).trans (if_neg hzero)
  refine ⟨Nat.add_pos_left (by decide) _, ?_⟩
  rw [hnormal, UnpackedFloat.finite.injEq, he, hf, hsign]
  exact ⟨rfl, toNat_append_one f, rfl⟩

/-- A ratio is what it was after it has been packed. -/
theorem isRatio_pack (hm : 2 ^ 52 ≤ m) (hm' : m < 2 ^ 53) (hj : j ≤ 1074) {hpos : 0 < m} :
    IsRatio ⟨Float.Model.pack (.finite .positive m (-j) hpos)⟩ m j := by
  have hexponent : (BitVec.ofNat 11 (1075 - j)).toNat = 1075 - j := Nat.mod_eq_of_lt (by omega)
  have hfraction : (BitVec.ofNat 52 m).toNat = m - 2 ^ 52 := by
    rw [BitVec.toNat_ofNat]
    omega
  refine ⟨hm, hm', hj, ?_, ?_⟩
  · have hbits : (Double.ofFloat ⟨Float.Model.pack (.finite .positive m (-j) hpos)⟩).bits.toNat =
        (UnpackedFloat.pack Format.binary64 (.finite .positive m (-j) hpos)).toNat := rfl
    rw [hbits, pack_eq hm hm' hj, toNat_packComponents, hexponent, hfraction]
    exact congrArg (· + (m - 2 ^ 52)) (Nat.zero_add _)
  · have hunpack : (Float.Model.pack (.finite .positive m (-j) hpos)).unpack =
        UnpackedFloat.unpack Format.binary64
          (UnpackedFloat.pack Format.binary64 (.finite .positive m (-j) hpos)) := rfl
    obtain ⟨h, hfinite⟩ := exists_unpack_packComponents (e := BitVec.ofNat 11 (1075 - j))
      (by omega) (by omega) (BitVec.ofNat 52 m)
    rw [hunpack, pack_eq hm hm' hj, hfinite, UnpackedFloat.finite.injEq, hexponent, hfraction]
    exact ⟨rfl, by omega, by omega⟩

theorem mantissa_shiftRight (em : ExtendedMantissa) (k : Nat) :
    (em >>> k).mantissa = em.mantissa / 2 ^ k := by
  have hsucc : ∀ k, em >>> (k + 1) = (em >>> k).shiftRightOne := fun _ => rfl
  induction k with
  | zero => exact (Nat.div_one _).symm
  | succ k ih =>
    have hone : (em >>> k).shiftRightOne.mantissa = (em >>> k).mantissa / 2 := rfl
    rw [hsucc, hone, ih, Nat.div_div_eq_div_mul, Nat.pow_succ]

theorem shiftRight_exact (m k : Nat) :
    ExtendedMantissa.ofMantissaAndAccuracy (m * 2 ^ k) .exact >>> k =
      ExtendedMantissa.ofMantissaAndAccuracy m .exact := by
  induction k generalizing m with
  | zero => rw [Nat.pow_zero, Nat.mul_one]; rfl
  | succ k ih =>
    have hsucc : ∀ em : ExtendedMantissa, em >>> (k + 1) = (em >>> k).shiftRightOne := fun _ => rfl
    rw [Nat.pow_succ, Nat.mul_comm (2 ^ k) 2, ← Nat.mul_assoc, hsucc, ih]
    simp [ExtendedMantissa.shiftRightOne, ExtendedMantissa.ofMantissaAndAccuracy]

/-- Rounding a significand adds at most one to it. -/
theorem roundedMantissa_bounds (em : ExtendedMantissa) :
    em.mantissa ≤ em.roundedMantissa ∧ em.roundedMantissa ≤ em.mantissa + 1 := by
  rw [ExtendedMantissa.roundedMantissa]
  cases em.accuracy with
  | exact => exact ⟨Nat.le_refl _, Nat.le_succ _⟩
  | inexact order =>
    cases order with
    | lt => exact ⟨Nat.le_refl _, Nat.le_succ _⟩
    | gt => exact ⟨Nat.le_succ _, Nat.le_refl _⟩
    | eq =>
      have hodd : em.mantissa % 2 < 2 := Nat.mod_lt _ (by decide)
      rw [Accuracy.roundToNearestEven]
      omega

/-- Bits beyond those of a significand are shifted out. -/
theorem shiftToTargetExponent_eq {k : Nat} (hlog : m.log2 = 52 + k) (hk : k ≤ j)
    (hj : j - k ≤ 1074) (a : Accuracy) :
    shiftToTargetExponent Format.binary64 m (-j) a =
      (ExtendedMantissa.ofMantissaAndAccuracy m a >>> k, -((j - k : Nat) : Int)) := by
  have htarget : Format.binary64.targetExponent (totalExponent m (-j)) =
      -((j - k : Nat) : Int) := by
    have hbits : Format.binary64.mantissaBits = 53 := rfl
    have hmin : Format.binary64.minExponent = -1074 := rfl
    rw [Float.Model.Format.targetExponent, totalExponent, hbits, hmin, hlog]
    omega
  have hshift : (-((j - k : Nat) : Int) - -j).toNat = k := by omega
  have hexponent : -(j : Int) + k = -((j - k : Nat) : Int) := by omega
  rw [shiftToTargetExponent, htarget, shiftToExponent, hshift, hexponent]

theorem roundWithAccuracy_eq_finite {e e' e'' : Int} {a : Accuracy} {em em' : ExtendedMantissa}
    {r : Nat} (hfirst : shiftToTargetExponent Format.binary64 m e a = (em, e'))
    (hsecond : shiftToTargetExponent Format.binary64 em.roundedMantissa e' .exact = (em', e''))
    (hr : em'.mantissa = r) (hpos : 0 < r) :
    roundWithAccuracy Format.binary64 .positive m e a = .finite .positive r e'' hpos := by
  subst hr
  rw [roundWithAccuracy, hfirst]
  dsimp only
  rw [hsecond]
  exact dif_neg (Nat.ne_of_gt hpos)

variable {k r : Nat} {a : Accuracy}

theorem isRatio_of_lt (hlog : m.log2 = 52 + k) (hk : k ≤ j) (hj : j - k ≤ 1074)
    (hr : (ExtendedMantissa.ofMantissaAndAccuracy m a >>> k).roundedMantissa = r)
    (hleast : 2 ^ 52 ≤ r) (hmost : r < 2 ^ 53) :
    IsRatio ⟨Float.Model.pack (roundWithAccuracy Format.binary64 .positive m (-j) a)⟩ r
      (j - k) := by
  have hfirst := shiftToTargetExponent_eq hlog hk hj a
  have hsecond := shiftToTargetExponent_eq (log2_eq hleast hmost) (Nat.zero_le (j - k)) hj .exact
  rw [← hr] at hsecond
  have hpos : 0 < r := Nat.lt_of_lt_of_le (by decide) hleast
  rw [roundWithAccuracy_eq_finite hfirst hsecond hr hpos]
  exact isRatio_pack hleast hmost hj

/-- If all bits were ones, a significand may be rounded to one with a bit more. -/
theorem isRatio_of_eq (hlog : m.log2 = 52 + k) (hk : k < j) (hj : j - k ≤ 1074)
    (hr : (ExtendedMantissa.ofMantissaAndAccuracy m a >>> k).roundedMantissa = 2 ^ 53) :
    IsRatio ⟨Float.Model.pack (roundWithAccuracy Format.binary64 .positive m (-j) a)⟩ (2 ^ 52)
      (j - k - 1) := by
  have hfirst := shiftToTargetExponent_eq hlog (Nat.le_of_lt hk) hj a
  have hone : (2 ^ 53).log2 = 52 + 1 := Nat.log2_two_pow
  have hsecond := shiftToTargetExponent_eq hone (by omega : 1 ≤ j - k) (by omega) .exact
  rw [← hr] at hsecond
  have hhalf : (ExtendedMantissa.ofMantissaAndAccuracy
      (ExtendedMantissa.ofMantissaAndAccuracy m a >>> k).roundedMantissa .exact >>> 1).mantissa =
        2 ^ 52 := by
    rw [hr]
    exact mantissa_shiftRight _ 1
  rw [roundWithAccuracy_eq_finite hfirst hsecond hhalf (by decide)]
  exact isRatio_pack (Nat.le_refl _) (by decide) (by omega)

/-- Rounding adds at most one unit in the last place. -/
theorem exists_isRatio_of_round (hlog : m.log2 = 52 + k) (hk : k < j) (hj : j - k ≤ 1074)
    (a : Accuracy) :
    ∃ m' j', IsRatio ⟨Float.Model.pack (roundWithAccuracy Format.binary64 .positive m (-j) a)⟩
        m' j' ∧ ∀ c, m ≤ c * 2 ^ j → m' ≤ c * 2 ^ j' + 1 := by
  generalize hr : (ExtendedMantissa.ofMantissaAndAccuracy m a >>> k).roundedMantissa = r
  have hmantissa : (ExtendedMantissa.ofMantissaAndAccuracy m a >>> k).mantissa = m / 2 ^ k := by
    rw [mantissa_shiftRight]
    cases a with
    | exact => rfl
    | inexact order => cases order <;> rfl
  have hbounds := roundedMantissa_bounds (ExtendedMantissa.ofMantissaAndAccuracy m a >>> k)
  rw [hr, hmantissa] at hbounds
  have hbits : 2 ^ (52 + k) ≤ m ∧ m < 2 ^ (53 + k) := by
    have hne : m ≠ 0 := by
      rintro rfl
      rw [Nat.log2_zero] at hlog
      omega
    have h := (Nat.log2_eq_iff hne).1 hlog
    rwa [Nat.add_right_comm] at h
  have hleast : 2 ^ 52 ≤ m / 2 ^ k := by
    rw [Nat.le_div_iff_mul_le (Nat.two_pow_pos k), ← Nat.pow_add]
    exact hbits.1
  have hmost : m / 2 ^ k < 2 ^ 53 := by
    rw [Nat.div_lt_iff_lt_mul (Nat.two_pow_pos k), ← Nat.pow_add]
    exact hbits.2
  have hbound : ∀ c, m ≤ c * 2 ^ j → r ≤ c * 2 ^ (j - k) + 1 := by
    intro c hc
    have hsplit : c * 2 ^ j = c * 2 ^ (j - k) * 2 ^ k := by
      rw [Nat.mul_assoc, ← Nat.pow_add, Nat.sub_add_cancel (Nat.le_of_lt hk)]
    have hle : m / 2 ^ k ≤ c * 2 ^ (j - k) := by
      rw [← Nat.mul_div_cancel (c * 2 ^ (j - k)) (Nat.two_pow_pos k), ← hsplit]
      exact Nat.div_le_div_right hc
    omega
  by_cases hshort : r < 2 ^ 53
  · exact ⟨r, j - k, isRatio_of_lt hlog (Nat.le_of_lt hk) hj hr (by omega) hshort, hbound⟩
  · obtain rfl : r = 2 ^ 53 := by omega
    refine ⟨2 ^ 52, j - k - 1, isRatio_of_eq hlog hk hj hr, ?_⟩
    intro c hc
    have hdouble : c * 2 ^ (j - k) = 2 * (c * 2 ^ (j - k - 1)) := by
      rw [Nat.mul_left_comm, ← Nat.pow_succ', Nat.succ_eq_add_one, Nat.sub_add_cancel (by omega)]
    have := hbound c hc
    omega

theorem normalize_eq {m : Nat} (h : 0 < m) (e : Int) :
    UnpackedFloat.normalize Format.binary64 m e .positive =
      UnpackedFloat.round Format.binary64 .positive m e := by
  have hgt : compare (m : Int) 0 = .gt := Int.compare_eq_gt.2 (by omega)
  rw [UnpackedFloat.normalize, hgt]
  rfl

/-- A short number is filled up with zeros. -/
theorem round_eq {m s : Nat} (hlog : m.log2 + s = 52) :
    UnpackedFloat.round Format.binary64 .positive m 0 =
      roundWithAccuracy Format.binary64 .positive (m * 2 ^ s) (-s) .exact := by
  have htarget : Format.binary64.targetExponent (totalExponent m 0) = -(s : Int) := by
    have hbits : Format.binary64.mantissaBits = 53 := rfl
    have hmin : Format.binary64.minExponent = -1074 := rfl
    rw [Float.Model.Format.targetExponent, totalExponent, hbits, hmin]
    omega
  have hshift : (0 - -(s : Int)).toNat = s := by omega
  have hzero : (0 : Int) - s = -s := Int.zero_sub s
  rw [UnpackedFloat.round, htarget, decreaseExponent, hshift, Nat.shiftLeft_eq, hzero]

/-- A long number is rounded as it stands. -/
theorem round_of_le (hm : 2 ^ 52 ≤ m) (hj : j ≤ 1074) :
    UnpackedFloat.round Format.binary64 .positive m (-j) =
      roundWithAccuracy Format.binary64 .positive m (-j) .exact := by
  have hlog : 52 ≤ m.log2 := (Nat.le_log2 (by omega)).2 hm
  have hshift : (-(j : Int) - Format.binary64.targetExponent (totalExponent m (-j))).toNat = 0 := by
    have hbits : Format.binary64.mantissaBits = 53 := rfl
    have hmin : Format.binary64.minExponent = -1074 := rfl
    rw [Float.Model.Format.targetExponent, totalExponent, hbits, hmin]
    omega
  have hzero : -(j : Int) - (0 : Nat) = -j := Int.sub_zero _
  rw [UnpackedFloat.round, decreaseExponent, hshift, Nat.shiftLeft_zero, hzero]

end Rounding

section Arithmetic

variable {x y : Float} {m m' j j' : Nat}

section Finite

variable (e e' : Int) (hpos : 0 < m) (hpos' : 0 < m')

theorem mul_finite : UnpackedFloat.mul Format.binary64 (.finite .positive m e hpos)
    (.finite .positive m' e' hpos') =
      roundWithAccuracy Format.binary64 .positive (m * m') (e + e') .exact := rfl

theorem div_finite : UnpackedFloat.div Format.binary64 (.finite .positive m e hpos)
    (.finite .positive m' e' hpos') =
      let q := divCore Format.binary64 m e m' e'
      roundWithAccuracy Format.binary64 .positive q.1 q.2.1 q.2.2 := rfl

theorem add_finite : UnpackedFloat.add Format.binary64 (.finite .positive m e hpos)
    (.finite .positive m' e' hpos') =
      UnpackedFloat.normalize Format.binary64 ((decreaseExponent m e (min e e')).1 +
        (decreaseExponent m' e' (min e e')).1 : Nat) (min e e') .positive := rfl

end Finite

theorem mul_eq (h : IsRatio x m j) (h' : IsRatio y m' j') :
    x * y = ⟨Float.Model.pack
      (roundWithAccuracy Format.binary64 .positive (m * m') (-(j + j' : Nat)) .exact)⟩ := by
  have hmul : x * y = ⟨Float.Model.pack
      (UnpackedFloat.mul Format.binary64 x.toModel.unpack y.toModel.unpack)⟩ := rfl
  have hexponent : -(j : Int) + -(j' : Int) = -((j + j' : Nat) : Int) := by omega
  rw [hmul, h.unpack_eq, h'.unpack_eq, mul_finite, hexponent]

theorem isRatio_one : IsRatio (Float.ofBits 4607182418800017408) (2 ^ 52) 52 where
  least := Nat.le_refl _
  most := by decide
  small := by decide
  bits_eq := rfl
  unpack_eq := rfl

theorem IsRatio.mul_one (h : IsRatio x m j) :
    IsRatio (x * Float.ofBits 4607182418800017408) m j := by
  have hlog : (m * 2 ^ 52).log2 = 52 + 52 :=
    log2_mul_two_pow h.least h.most 52
  have hr : (ExtendedMantissa.ofMantissaAndAccuracy (m * 2 ^ 52) .exact >>> 52).roundedMantissa =
      m := by
    rw [shiftRight_exact]
    rfl
  have hj : j + 52 - 52 = j := Nat.add_sub_cancel j 52
  rw [mul_eq h isRatio_one]
  have hratio := isRatio_of_lt hlog (Nat.le_add_left 52 j) (hj ▸ h.small) hr h.least h.most
  rwa [hj] at hratio

theorem exists_isRatio_toFloat {n : Nat} (hpos : 0 < n) (h : n < 2 ^ 53) :
    ∃ s, IsRatio n.toUInt64.toFloat (n * 2 ^ s) s ∧ s ≤ 52 := by
  have hlog : n.log2 < 53 := (Nat.log2_lt (by omega)).2 h
  obtain ⟨s, hs⟩ : ∃ s, n.log2 + s = 52 := ⟨52 - n.log2, by omega⟩
  have hle := Nat.log2_self_le (n := n) (by omega)
  have hlt := Nat.lt_log2_self (n := n)
  have hn : n.toUInt64.toNat = n := UInt64.toNat_ofNat_of_lt' (Nat.lt_trans h (by decide))
  have hleast : 2 ^ 52 ≤ n * 2 ^ s := by
    rw [← hs, Nat.pow_add]
    exact Nat.mul_le_mul_right _ hle
  have hmost : n * 2 ^ s < 2 ^ 53 := by
    have hfull : 2 ^ 53 = 2 ^ (n.log2 + 1) * 2 ^ s := by
      rw [← Nat.pow_add, Nat.add_right_comm, hs]
    rw [hfull]
    exact Nat.mul_lt_mul_of_pos_right hlt (Nat.two_pow_pos s)
  have hfloat : n.toUInt64.toFloat = ⟨Float.Model.pack
      (roundWithAccuracy Format.binary64 .positive (n * 2 ^ s) (-s) .exact)⟩ := by
    rw [← round_eq hs, ← normalize_eq hpos, UInt64.toFloat, Float.Model.ofUInt64,
      UnpackedFloat.ofUInt64, hn]
    rfl
  have hr : (ExtendedMantissa.ofMantissaAndAccuracy (n * 2 ^ s) .exact >>> 0).roundedMantissa =
      n * 2 ^ s := rfl
  have hratio := isRatio_of_lt (log2_eq hleast hmost) (Nat.zero_le s) (by omega) hr hleast hmost
  rw [hfloat]
  exact ⟨s, hratio, by omega⟩

theorem exists_isRatio_ofNat {n : Nat} (hpos : 0 < n) (h : n < 2 ^ 53) :
    ∃ s, IsRatio (Float.ofNat n) (n * 2 ^ s) s ∧ s ≤ 52 := by
  obtain ⟨s, hs, hle⟩ := exists_isRatio_toFloat hpos h
  have hfloat : Float.ofNat n = n.toUInt64.toFloat * Float.ofBits 4607182418800017408 :=
    dif_pos (⟨h, Nat.zero_le 22⟩ : n < 2 ^ 53 ∧ 0 ≤ 22)
  rw [hfloat]
  exact ⟨s, hs.mul_one, hle⟩

theorem div_eq {d : Nat} (h : IsRatio x m (j + d)) (h' : IsRatio y m' j) (hd : d ≤ 1000) :
    x / y = ⟨Float.Model.pack (roundWithAccuracy Format.binary64 .positive (m * 2 ^ 53 / m')
      (-((d + 53 : Nat) : Int)) (accuracyOfFraction (m * 2 ^ 53 % m') m'))⟩ := by
  have htarget : Format.binary64.targetExponent
      (totalExponent m (-(j + d : Nat)) - totalExponent m' (-j)) = -((d + 53 : Nat) : Int) := by
    have hbits : Format.binary64.mantissaBits = 53 := rfl
    have hmin : Format.binary64.minExponent = -1074 := rfl
    rw [Float.Model.Format.targetExponent, totalExponent, totalExponent, hbits, hmin,
      log2_eq h.least h.most, log2_eq h'.least h'.most]
    omega
  have hmin : min (-((j + d : Nat) : Int) - -j) (-((d + 53 : Nat) : Int)) =
      -((d + 53 : Nat) : Int) := by omega
  have hshift : (-((j + d : Nat) : Int) - -j - -((d + 53 : Nat) : Int)).toNat = 53 := by omega
  have hdiv : x / y = ⟨Float.Model.pack
    (UnpackedFloat.div Format.binary64 x.toModel.unpack y.toModel.unpack)⟩ := rfl
  rw [hdiv, h.unpack_eq, h'.unpack_eq, div_finite, divCore, htarget, hmin, hshift,
    Nat.shiftLeft_eq]

/-- A quotient of numbers of which the first is not the greater is hardly more than one. -/
theorem exists_isRatio_div (h : IsRatio x m j) (h' : IsRatio y m' j') (hj : j ≤ 52)
    (hle : m * 2 ^ j' ≤ m' * 2 ^ j) : ∃ n i, IsRatio (x / y) n i ∧ n ≤ 2 ^ i + 1 := by
  have hm := h.least
  have hmost := h.most
  have hm' := h'.least
  have hmost' := h'.most
  have hpos : 0 < m' := by omega
  obtain ⟨d, rfl⟩ : ∃ d, j = j' + d := by
    refine Nat.exists_eq_add_of_le (Nat.le_of_not_lt fun hlt => ?_)
    have hpow : 2 ^ (j + 1) ≤ 2 ^ j' := Nat.pow_le_pow_right (by decide) hlt
    have hdouble : m * 2 ^ (j + 1) = 2 * m * 2 ^ j := by
      rw [Nat.pow_succ', Nat.mul_left_comm, Nat.mul_assoc]
    have hlong := Nat.le_trans (Nat.mul_le_mul_left m hpow) hle
    rw [hdouble] at hlong
    have := Nat.le_of_mul_le_mul_right hlong (Nat.two_pow_pos j)
    omega
  have hone : m * 2 ^ 53 / m' ≤ 1 * 2 ^ (d + 53) := by
    have hd : m ≤ m' * 2 ^ d := by
      rw [Nat.pow_add, Nat.mul_comm (2 ^ j'), ← Nat.mul_assoc] at hle
      exact Nat.le_of_mul_le_mul_right hle (Nat.two_pow_pos j')
    apply Nat.div_le_of_le_mul
    rw [Nat.one_mul, Nat.pow_add, ← Nat.mul_assoc]
    exact Nat.mul_le_mul_right _ hd
  have hleast : 2 ^ 52 ≤ m * 2 ^ 53 / m' := by
    rw [Nat.le_div_iff_mul_le hpos]
    omega
  have hlong : m * 2 ^ 53 / m' < 2 ^ 54 := by
    rw [Nat.div_lt_iff_lt_mul hpos]
    omega
  obtain ⟨k, hk, hlog⟩ : ∃ k, k ≤ 1 ∧ (m * 2 ^ 53 / m').log2 = 52 + k := by
    have hne : m * 2 ^ 53 / m' ≠ 0 := by omega
    have hlow := (Nat.le_log2 hne).2 hleast
    have hhigh := (Nat.log2_lt hne).2 hlong
    exact ⟨(m * 2 ^ 53 / m').log2 - 52, by omega, by omega⟩
  have hlt : k < d + 53 := by omega
  have hsmall : d + 53 - k ≤ 1074 := by omega
  obtain ⟨n, i, hn, hbound⟩ := exists_isRatio_of_round hlog hlt hsmall
    (accuracyOfFraction (m * 2 ^ 53 % m') m')
  have hle := hbound 1 hone
  rw [Nat.one_mul] at hle
  exact ⟨n, i, div_eq h h' (by omega) ▸ hn, hle⟩

theorem exists_isRatio_mul (h : IsRatio x m j) (h' : IsRatio y m' j') (hj : 54 ≤ j + j')
    (hj' : j' ≤ 52) :
    ∃ n i, IsRatio (x * y) n i ∧ ∀ c, m * m' ≤ c * 2 ^ (j + j') → n ≤ c * 2 ^ i + 1 := by
  have hsmall := h.small
  have hleast := Nat.mul_le_mul h.least h'.least
  have hmost := Nat.mul_lt_mul'' h.most h'.most
  rw [← Nat.pow_add] at hleast hmost
  obtain ⟨k, hk, hlog⟩ : ∃ k, (52 ≤ k ∧ k ≤ 53) ∧ (m * m').log2 = 52 + k := by
    have hne : m * m' ≠ 0 := by omega
    have hlow := (Nat.le_log2 hne).2 hleast
    have hhigh := (Nat.log2_lt hne).2 hmost
    exact ⟨(m * m').log2 - 52, by omega, by omega⟩
  have hlt : k < j + j' := by omega
  have hfits : j + j' - k ≤ 1074 := by omega
  rw [mul_eq h h']
  exact exists_isRatio_of_round hlog hlt hfits .exact

theorem add_eq (h : IsRatio x m j) (h' : IsRatio y m' j') :
    x + y = ⟨Float.Model.pack (roundWithAccuracy Format.binary64 .positive
      (m * 2 ^ (max j j' - j) + m' * 2 ^ (max j j' - j')) (-(max j j' : Nat)) .exact)⟩ := by
  have hadd : x + y = ⟨Float.Model.pack
    (UnpackedFloat.add Format.binary64 x.toModel.unpack y.toModel.unpack)⟩ := rfl
  have hmin : min (-(j : Int)) (-j') = -((max j j' : Nat) : Int) := by omega
  have hshift : (-(j : Int) - -((max j j' : Nat) : Int)).toNat = max j j' - j := by omega
  have hshift' : (-(j' : Int) - -((max j j' : Nat) : Int)).toNat = max j j' - j' := by omega
  have hlong : 2 ^ 52 ≤ m * 2 ^ (max j j' - j) + m' * 2 ^ (max j j' - j') :=
    Nat.le_trans h.least
      (Nat.le_trans (Nat.le_mul_of_pos_right m (Nat.two_pow_pos _)) (Nat.le_add_right _ _))
  have hsmall : max j j' ≤ 1074 := Nat.max_le.2 ⟨h.small, h'.small⟩
  rw [hadd, h.unpack_eq, h'.unpack_eq, add_finite, hmin, decreaseExponent, decreaseExponent,
    hshift, hshift', Nat.shiftLeft_eq, Nat.shiftLeft_eq, ← round_of_le hlong hsmall,
    ← normalize_eq (by omega)]

theorem exists_isRatio_add (h : IsRatio x m j) (h' : IsRatio y m' j') {c c' : Nat}
    (hle : m ≤ c * 2 ^ j) (hle' : m' ≤ c' * 2 ^ j' + 1) (hc : c + c' + 1 < 2 ^ 52) :
    ∃ n i, IsRatio (x + y) n i ∧ n ≤ (c + c' + 1) * 2 ^ i + 1 := by
  rw [add_eq h h']
  generalize hJ : max j j' = J
  generalize hM : m * 2 ^ (J - j) + m' * 2 ^ (J - j') = M
  have hpow : ∀ i ≤ J, 2 ^ i * 2 ^ (J - i) = 2 ^ J := by
    intro i hi
    rw [← Nat.pow_add, Nat.add_sub_cancel' hi]
  have hsum : M ≤ (c + c' + 1) * 2 ^ J := by
    have hfirst : m * 2 ^ (J - j) ≤ c * 2 ^ J := by
      rw [← hpow j (by omega), ← Nat.mul_assoc]
      exact Nat.mul_le_mul_right _ hle
    have hsecond : m' * 2 ^ (J - j') ≤ c' * 2 ^ J + 2 ^ J := by
      have hunit : 2 ^ (J - j') ≤ 2 ^ J := Nat.pow_le_pow_right (by decide) (Nat.sub_le J j')
      have hlast := Nat.mul_le_mul_right (2 ^ (J - j')) hle'
      rw [Nat.add_mul, Nat.one_mul, Nat.mul_assoc, hpow j' (by omega)] at hlast
      omega
    rw [Nat.add_mul, Nat.add_mul, Nat.one_mul]
    omega
  have hlong : 2 ^ 52 ≤ M := by
    have hfirst := Nat.le_mul_of_pos_right m (Nat.two_pow_pos (J - j))
    have hleast := h.least
    omega
  have hne : M ≠ 0 := by omega
  have hshort : M.log2 < 52 + J := by
    rw [Nat.log2_lt hne, Nat.pow_add]
    exact Nat.lt_of_le_of_lt hsum (Nat.mul_lt_mul_of_pos_right hc (Nat.two_pow_pos J))
  obtain ⟨k, hlog⟩ : ∃ k, M.log2 = 52 + k := Nat.exists_eq_add_of_le ((Nat.le_log2 hne).2 hlong)
  have hsmall : J - k ≤ 1074 := by
    have := h.small
    have := h'.small
    omega
  obtain ⟨n, i, hn, hbound⟩ := exists_isRatio_of_round hlog (by omega) hsmall .exact
  exact ⟨n, i, hn, hbound _ hsum⟩

end Arithmetic

end Shdlc.Binary64
