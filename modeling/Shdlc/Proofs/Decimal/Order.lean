import Shdlc.Proofs.Decimal.Rounding
/-!
The order of doubles. Main statements: `isNaN_toFloat`, `toFloat_lt_iff` and `toFloat_le_iff`, by the
keys that are made of their bits doubles compare as floating-point numbers do.
-/
namespace Shdlc.Double

open Float.Model Float.Model.UnpackedFloat

section Fields

variable (x : Double)

theorem toNat_unpackExponent :
    (@unpackExponent Format.binary64 x.bits.toBitVec).toNat = x.magnitude / hidden := by
  have h : (@unpackExponent Format.binary64 x.bits.toBitVec).toNat =
      x.bits.toNat / 2 ^ 52 % 2 ^ 11 := by
    have hexponent : (@unpackExponent Format.binary64 x.bits.toBitVec).toNat =
        (BitVec.extractLsb 62 52 x.bits.toBitVec).toNat := rfl
    rw [hexponent, BitVec.extractLsb_toNat, Nat.shiftRight_eq_div_pow]
    rfl
  rw [h, magnitude, signBit, hidden]
  omega

theorem toNat_unpackMantissa :
    (@unpackMantissa Format.binary64 x.bits.toBitVec).toNat = x.magnitude % hidden := by
  have h : (@unpackMantissa Format.binary64 x.bits.toBitVec).toNat = x.bits.toNat % 2 ^ 52 := by
    have hmantissa : (@unpackMantissa Format.binary64 x.bits.toBitVec).toNat =
        (BitVec.extractLsb 51 0 x.bits.toBitVec).toNat := rfl
    rw [hmantissa, BitVec.extractLsb_toNat, Nat.shiftRight_zero]
    rfl
  rw [h, magnitude, signBit, hidden]
  omega

def sign : Sign := if x.isNegative then .negative else .positive

theorem toNat_toBitVec_sign : x.sign.toBitVec.toNat = x.bits.toNat / 2 ^ 63 := by
  have hlt := x.bits.toNat_lt
  unfold sign isNegative
  by_cases hs : signBit ≤ x.bits.toNat
  · rw [decide_eq_true hs, if_pos rfl]
    simp only [signBit] at hs
    exact show 1 = _ by omega
  · rw [decide_eq_false hs, if_neg Bool.false_ne_true]
    simp only [signBit] at hs
    exact show 0 = _ by omega

theorem ofBitVec_unpackSign :
    Sign.ofBitVec (@unpackSign Format.binary64 x.bits.toBitVec) = x.sign := by
  have h : (@unpackSign Format.binary64 x.bits.toBitVec).toNat = x.bits.toNat / 2 ^ 63 := by
    have hsign : (@unpackSign Format.binary64 x.bits.toBitVec).toNat =
        (BitVec.extractLsb 63 63 x.bits.toBitVec).toNat := rfl
    rw [hsign, BitVec.extractLsb_toNat, Nat.shiftRight_eq_div_pow]
    exact Nat.mod_eq_of_lt (Nat.div_lt_of_lt_mul x.bits.toNat_lt)
  have hvector : @unpackSign Format.binary64 x.bits.toBitVec = x.sign.toBitVec :=
    BitVec.eq_of_toNat_eq (h.trans (toNat_toBitVec_sign x).symm)
  rw [hvector]
  cases x.sign with
  | negative => rfl
  | positive => rfl

/-- The three fields of a double make up its bits. -/
theorem packComponents_eq {x : Double} {e : BitVec 11} {f : BitVec 52}
    (he : e.toNat = x.magnitude / hidden) (hf : f.toNat = x.magnitude % hidden) :
    packComponents Format.binary64 x.sign e f = x.bits.toBitVec := by
  apply BitVec.eq_of_toNat_eq
  rw [Binary64.toNat_packComponents, toNat_toBitVec_sign, he, hf, magnitude, signBit, hidden]
  have hbits : x.bits.toBitVec.toNat = x.bits.toNat := rfl
  rw [hbits]
  omega

end Fields

theorem significand_lt (x : Double) : x.significand < 2 * hidden := by
  unfold significand
  split
  · omega
  · have hlt := Nat.mod_lt x.magnitude (show 0 < hidden by decide)
    omega

theorem hidden_le_significand {x : Double} (h : 0 < x.scale) : hidden ≤ x.significand := by
  unfold scale at h
  unfold significand
  split
  · next hlt =>
    rw [Nat.div_eq_of_lt hlt] at h
    cases h
  · exact Nat.le_add_right _ _

theorem magnitude_eq (x : Double) : x.magnitude = x.scale * hidden + x.significand := by
  unfold scale significand
  have hdiv := Nat.div_add_mod x.magnitude hidden
  split
  · next hlt => rw [Nat.div_eq_of_lt hlt, Nat.zero_sub, Nat.zero_mul, Nat.zero_add]
  · next hle =>
    have hpos := Nat.div_pos (Nat.not_lt.1 hle) (by decide)
    simp only [hidden] at *
    omega

/-- What the magnitude of a double says, together with a sign. -/
inductive Reads (x : Double) (s : Sign) : UnpackedFloat → Prop
  | notANumber (h : x.isNaN) : Reads x s .notANumber
  | infinity (h : x.magnitude = infinite) : Reads x s (.infinity s)
  | zero (h : x.magnitude = 0) : Reads x s (.zero s)
  | finite (h : x.magnitude < infinite) (hpos : 0 < x.significand) :
    Reads x s (.finite s x.significand (x.scale - unit) hpos)

theorem magnitude_lt (x : Double) : x.magnitude < signBit := Nat.mod_lt _ (by decide)

theorem reads_finite {x : Double} {s : Sign} {m : Nat} {e : Int} {hpos : 0 < m}
    (h : x.magnitude < infinite) (hm : m = x.significand) (he : e = x.scale - unit) :
    Reads x s (.finite s m e hpos) := by
  subst hm he
  exact .finite h hpos

theorem reads_unpack (x : Double) :
    Reads x x.sign (UnpackedFloat.unpack Format.binary64 x.bits.toBitVec) := by
  have he := toNat_unpackExponent x
  have hf := toNat_unpackMantissa x
  have hlt := magnitude_lt x
  have hbias : Format.binary64.exponentBias = 1023 := rfl
  have hwidth : Format.binary64.mantissaBitsWithoutImplicit = 52 := rfl
  rw [← ofBitVec_unpackSign]
  simp only [signBit, hidden] at he hf hlt
  by_cases hone : @unpackExponent Format.binary64 x.bits.toBitVec = -1#11
  · have hexponent : x.magnitude / 4503599627370496 = 2047 := by rw [← he, hone]; rfl
    by_cases hzero : @unpackMantissa Format.binary64 x.bits.toBitVec = 0#52
    · have hfraction : x.magnitude % 4503599627370496 = 0 := by rw [← hf, hzero]; rfl
      have hunpack : UnpackedFloat.unpack Format.binary64 x.bits.toBitVec = .infinity _ :=
        (if_pos hone).trans (if_pos hzero)
      rw [hunpack]
      refine .infinity ?_
      simp only [infinite, hidden]
      omega
    · have hfraction : x.magnitude % 4503599627370496 ≠ 0 := by
        rw [← hf]
        exact fun h => hzero (BitVec.eq_of_toNat_eq h)
      have hunpack : UnpackedFloat.unpack Format.binary64 x.bits.toBitVec = .notANumber :=
        (if_pos hone).trans (if_neg hzero)
      rw [hunpack]
      refine .notANumber (decide_eq_true ?_)
      simp only [infinite, hidden]
      omega
  · have hfinite : x.magnitude < infinite := by
      have hexponent : x.magnitude / 4503599627370496 ≠ 2047 := by
        rw [← he]
        exact fun h => hone (BitVec.eq_of_toNat_eq h)
      simp only [infinite, hidden]
      omega
    by_cases hleast : @unpackExponent Format.binary64 x.bits.toBitVec = 0#11
    · have hexponent : x.magnitude / 4503599627370496 = 0 := by rw [← he, hleast]; rfl
      by_cases hzero : @unpackMantissa Format.binary64 x.bits.toBitVec = 0#52
      · have hfraction : x.magnitude % 4503599627370496 = 0 := by rw [← hf, hzero]; rfl
        have hunpack : UnpackedFloat.unpack Format.binary64 x.bits.toBitVec = .zero _ :=
          (if_neg hone).trans ((if_pos hleast).trans (dif_pos hzero))
        rw [hunpack]
        refine .zero ?_
        omega
      · have hunpack : UnpackedFloat.unpack Format.binary64 x.bits.toBitVec = .finite _ _ _ _ :=
          (if_neg hone).trans ((if_pos hleast).trans (dif_neg hzero))
        rw [hunpack]
        refine reads_finite hfinite ?_ ?_
        · rw [hf, significand, hidden, if_pos (by omega)]
          omega
        · rw [he, hbias, hwidth, scale, unit, hidden]
          omega
    · have hexponent : x.magnitude / 4503599627370496 ≠ 0 := by
        rw [← he]
        exact fun h => hleast (BitVec.eq_of_toNat_eq h)
      have hunpack : UnpackedFloat.unpack Format.binary64 x.bits.toBitVec = .finite _ _ _ _ :=
        (if_neg hone).trans (if_neg hleast)
      rw [hunpack]
      refine reads_finite hfinite ?_ ?_
      · rw [Binary64.toNat_append_one, hf, significand, hidden, if_neg (by omega)]
        rfl
      · rw [he, hbias, hwidth, scale, unit, hidden]
        omega

theorem pack_finite {x : Double} (h : x.magnitude < infinite) (hpos : 0 < x.significand) :
    UnpackedFloat.pack Format.binary64 (.finite x.sign x.significand (x.scale - unit) hpos) =
      x.bits.toBitVec := by
  have hmagnitude := magnitude_eq x
  have hlt := significand_lt x
  have hexponent : x.scale + 1 + 1 < 2 ^ 11 := by
    refine Nat.not_le.1 fun hle => ?_
    have hleast := hidden_le_significand (x := x) (by omega)
    simp only [infinite, hidden] at h hmagnitude hleast
    omega
  have hfraction : (BitVec.ofNat 52 x.significand).toNat = x.magnitude % hidden := by
    rw [BitVec.toNat_ofNat, hmagnitude, hidden]
    omega
  have hbiased : ((x.scale : Int) - unit + 1023 + 52).toNat = x.scale + 1 := by
    rw [unit]
    omega
  have hpack : UnpackedFloat.pack Format.binary64
      (.finite x.sign x.significand (x.scale - unit) hpos) =
      if 2 ^ 11 ≤ ((x.scale : Int) - unit + 1023 + 52).toNat + 1 then
        packedInfinity Format.binary64 x.sign
      else if x.significand.log2 + 1 = 53 then
        packComponents Format.binary64 x.sign
          (BitVec.ofNat 11 ((x.scale : Int) - unit + 1023 + 52).toNat)
          (BitVec.ofNat 52 x.significand)
      else packComponents Format.binary64 x.sign 0#11 (BitVec.ofNat 52 x.significand) := rfl
  rw [hpack, hbiased, if_neg (Nat.not_le.2 hexponent)]
  -- Only numbers that are not subnormal have the hidden bit.
  by_cases hleast : hidden ≤ x.significand
  · rw [if_pos (congrArg (· + 1) (Binary64.log2_eq hleast hlt))]
    refine packComponents_eq ?_ hfraction
    rw [BitVec.toNat_ofNat, hmagnitude, Nat.mod_eq_of_lt (by omega)]
    simp only [hidden] at hleast hlt ⊢
    omega
  · have hscale : x.scale = 0 := Nat.eq_zero_of_not_pos fun h => hleast (hidden_le_significand h)
    have hlog : x.significand.log2 + 1 ≠ 53 := fun hlog =>
      hleast ((Nat.le_log2 (Nat.ne_of_gt hpos)).1 (Nat.le_of_eq (Nat.succ.inj hlog).symm))
    rw [if_neg hlog]
    refine packComponents_eq ?_ hfraction
    rw [hmagnitude, hscale, Nat.zero_mul, Nat.zero_add, Nat.div_eq_of_lt (Nat.not_le.1 hleast)]
    rfl

theorem pack_of_reads {x : Double} {u : UnpackedFloat} (h : Reads x x.sign u)
    (hn : x.isNaN = false) : UnpackedFloat.pack Format.binary64 u = x.bits.toBitVec := by
  cases h with
  | notANumber hx =>
    rw [hn] at hx
    cases hx
  | infinity hx =>
    refine packComponents_eq ?_ ?_
    · rw [hx]
      rfl
    · rw [hx]
      rfl
  | zero hx =>
    refine packComponents_eq ?_ ?_
    · rw [hx]
      rfl
    · rw [hx]
      rfl
  | finite hx hpos => exact pack_finite hx hpos

theorem isNaN_of_reads {x : Double} {s : Sign} {u : UnpackedFloat} (h : Reads x s u) :
    u.isNaN = x.isNaN := by
  cases h with
  | notANumber hx => exact hx.symm
  | infinity hx => exact (decide_eq_false (Nat.not_lt.2 (Nat.le_of_eq hx))).symm
  | zero hx => exact (decide_eq_false (Nat.not_lt.2 (hx ▸ Nat.zero_le _))).symm
  | finite hx hpos => exact (decide_eq_false (Nat.lt_asymm hx)).symm

theorem eq_notANumber {u : UnpackedFloat} (h : u.isNaN = true) : u = .notANumber := by
  cases u with
  | notANumber => rfl
  | infinity | zero | finite => cases h

/-- A double holds the number that its bits spell; if they spell none, it holds none. -/
theorem reads_toFloat (x : Double) : Reads x x.sign x.toFloat.toModel.unpack := by
  have hround : x.toFloat.toModel.unpack = UnpackedFloat.unpack Format.binary64
      (UnpackedFloat.pack Format.binary64
        (UnpackedFloat.unpack Format.binary64 x.bits.toBitVec)) := rfl
  have hreads := reads_unpack x
  rw [hround]
  cases hn : x.isNaN with
  | false =>
    rw [pack_of_reads hreads hn]
    exact hreads
  | true =>
    rw [eq_notANumber ((isNaN_of_reads hreads).trans hn)]
    exact .notANumber hn

theorem key_eq (x : Double) : x.key = x.sign.apply x.magnitude := by
  unfold key sign
  cases x.isNegative with
  | true => rfl
  | false => rfl

/-- Of two numbers the one with the higher exponent has the greater magnitude. -/
theorem compare_parts (x y : Double) :
    (compare ((x.scale : Int) - unit) (y.scale - unit)).then
      (compare x.significand y.significand) = compare (x.magnitude : Int) y.magnitude := by
  have hx := significand_lt x
  have hy := significand_lt y
  have hx' := @hidden_le_significand x
  have hy' := @hidden_le_significand y
  rw [magnitude_eq x, magnitude_eq y]
  simp only [hidden] at *
  obtain h | h | h := Nat.lt_trichotomy x.scale y.scale
  · rw [Int.compare_eq_lt.2 (show (x.scale : Int) - unit < y.scale - unit by omega)]
    exact (Int.compare_eq_lt.2 (by omega)).symm
  · rw [h, Int.compare_eq_eq.2 rfl, Ordering.eq_then]
    obtain hm | hm | hm := Nat.lt_trichotomy x.significand y.significand
    · exact (Nat.compare_eq_lt.2 hm).trans (Int.compare_eq_lt.2 (by omega)).symm
    · exact (Nat.compare_eq_eq.2 hm).trans (Int.compare_eq_eq.2 (by omega)).symm
    · exact (Nat.compare_eq_gt.2 hm).trans (Int.compare_eq_gt.2 (by omega)).symm
  · rw [Int.compare_eq_gt.2 (show (y.scale : Int) - unit < x.scale - unit by omega)]
    exact (Int.compare_eq_gt.2 (by omega)).symm

theorem compare_swap_eq_compare_neg (a b : Int) : (compare a b).swap = compare (-a) (-b) := by
  rw [Int.compare_swap, Int.compare_eq_ite_lt, Int.compare_eq_ite_lt]
  simp only [Int.neg_lt_neg_iff]

section Signs

variable {m n : Nat} (h : m < n)
include h

theorem negative_apply_lt (s : Sign) : Sign.negative.apply n < s.apply m := by
  cases s with
  | negative => exact Int.neg_lt_neg (Int.ofNat_lt.2 h)
  | positive => exact show -(n : Int) < m by omega

theorem apply_lt_positive (s : Sign) : s.apply m < Sign.positive.apply n := by
  cases s with
  | negative => exact show -(m : Int) < n by omega
  | positive => exact Int.ofNat_lt.2 h

end Signs

/-- Of two numbers that are not alike the one with the greater magnitude decides by its sign. -/
theorem compare_of_reads {x y : Double} {s t : Sign} {u v : UnpackedFloat} (hu : Reads x s u)
    (hv : Reads y t v) (hx : x.isNaN = false) (hy : y.isNaN = false) :
    u.compare v = some (compare (s.apply x.magnitude) (t.apply y.magnitude)) := by
  have hlt {a b : Int} (h : a < b) : some Ordering.lt = some (compare a b) :=
    congrArg some (Int.compare_eq_lt.2 h).symm
  have heq {a b : Int} (h : a = b) : some Ordering.eq = some (compare a b) :=
    congrArg some (Int.compare_eq_eq.2 h).symm
  have hgt {a b : Int} (h : b < a) : some Ordering.gt = some (compare a b) :=
    congrArg some (Int.compare_eq_gt.2 h).symm
  have hinfinite : 0 < infinite := by decide
  have hmx := magnitude_eq x
  have hmy := magnitude_eq y
  cases hu with
  | notANumber h =>
    rw [hx] at h
    cases h
  | infinity h =>
    cases hv with
    | notANumber h' =>
      rw [hy] at h'
      cases h'
    | infinity h' =>
      rw [h, h']
      cases s <;> cases t
      · exact heq rfl
      · exact hlt (by decide)
      · exact hgt (by decide)
      · exact heq rfl
    | zero h' | finite h' =>
      have hless : y.magnitude < x.magnitude := by omega
      cases s with
      | negative => exact hlt (negative_apply_lt hless t)
      | positive => exact hgt (apply_lt_positive hless t)
  | zero h =>
    cases hv with
    | notANumber h' =>
      rw [hy] at h'
      cases h'
    | zero h' =>
      rw [h, h']
      cases s <;> cases t <;> exact heq rfl
    | infinity h' | finite h' hpos =>
      have hless : x.magnitude < y.magnitude := by omega
      cases t with
      | negative => exact hgt (negative_apply_lt hless s)
      | positive => exact hlt (apply_lt_positive hless s)
  | finite h hpos =>
    cases hv with
    | notANumber h' =>
      rw [hy] at h'
      cases h'
    | infinity h' =>
      have hless : x.magnitude < y.magnitude := by omega
      cases t with
      | negative => exact hgt (negative_apply_lt hless s)
      | positive => exact hlt (apply_lt_positive hless s)
    | zero h' =>
      have hless : y.magnitude < x.magnitude := by omega
      cases s with
      | negative => exact hlt (negative_apply_lt hless t)
      | positive => exact hgt (apply_lt_positive hless t)
    | finite h' hpos' =>
      cases s <;> cases t
      · refine congrArg some ((congrArg Ordering.swap (compare_parts x y)).trans ?_)
        exact compare_swap_eq_compare_neg _ _
      · exact hlt (by simp only [Sign.apply]; omega)
      · exact hgt (by simp only [Sign.apply]; omega)
      · exact congrArg some (compare_parts x y)

theorem isNaN_toFloat (x : Double) : x.toFloat.isNaN = x.isNaN := isNaN_of_reads (reads_toFloat x)

/-- Numbers compare as their keys do, and with what is no number nothing compares. -/
theorem compare_toFloat (x y : Double) :
    x.toFloat.toModel.unpack.compare y.toFloat.toModel.unpack =
      if x.isNaN || y.isNaN then none else some (compare x.key y.key) := by
  have hu := reads_toFloat x
  have hv := reads_toFloat y
  cases hx : x.isNaN with
  | true =>
    rw [eq_notANumber ((isNaN_of_reads hu).trans hx)]
    rfl
  | false =>
    cases hy : y.isNaN with
    | true =>
      rw [eq_notANumber ((isNaN_of_reads hv).trans hy)]
      cases x.toFloat.toModel.unpack <;> rfl
    | false =>
      rw [key_eq, key_eq]
      exact compare_of_reads hu hv hx hy

theorem toFloat_lt_iff (x y : Double) : x.toFloat < y.toFloat ↔ x.lt y := by
  have h : x.toFloat < y.toFloat ↔ (x.toFloat.toModel.unpack.compare
      y.toFloat.toModel.unpack == some .lt) = true := decide_eq_true_iff
  rw [h, compare_toFloat, lt]
  cases x.isNaN with
  | true => exact iff_of_false nofun nofun
  | false =>
    cases y.isNaN with
    | true => exact iff_of_false nofun nofun
    | false =>
      show (some (compare x.key y.key) == some .lt) = true ↔ decide (x.key < y.key) = true
      rw [beq_iff_eq, Option.some_inj, Int.compare_eq_lt, decide_eq_true_iff]

theorem toFloat_le_iff (x y : Double) :
    x.toFloat ≤ y.toFloat ↔ x.isNaN = false ∧ y.isNaN = false ∧ x.key ≤ y.key := by
  have h : x.toFloat ≤ y.toFloat ↔ (x.toFloat.toModel.unpack.compare
      y.toFloat.toModel.unpack).any (·.isLE) = true := decide_eq_true_iff
  rw [h, compare_toFloat]
  cases x.isNaN with
  | true => exact iff_of_false nofun nofun
  | false =>
    cases y.isNaN with
    | true => exact iff_of_false nofun nofun
    | false =>
      show (compare x.key y.key).isLE = true ↔ _
      rw [Ordering.isLE_iff_ne_gt]
      exact ⟨fun hle => ⟨rfl, rfl, Int.compare_ne_gt.1 hle⟩, fun hle => Int.compare_ne_gt.2 hle.2.2⟩

theorem toFloat_zero : zero.toFloat = 0 := rfl

theorem toFloat_hundred : hundred.toFloat = 100 := rfl

variable {x y z : Double}

theorem not_toFloat_lt_iff (hx : x.isNaN = false) (hy : y.isNaN = false) :
    ¬ x.toFloat < y.toFloat ↔ y.toFloat ≤ x.toFloat := by
  rw [toFloat_lt_iff, toFloat_le_iff, lt, hx, hy]
  simp

theorem toFloat_le_of_lt (h : x.toFloat < y.toFloat) : x.toFloat ≤ y.toFloat := by
  rw [toFloat_lt_iff, lt] at h
  simp only [Bool.and_eq_true, Bool.not_eq_true', decide_eq_true_eq] at h
  rw [toFloat_le_iff]
  exact ⟨h.1.1, h.1.2, Int.le_of_lt h.2⟩

theorem toFloat_le_trans (h : x.toFloat ≤ y.toFloat) (h' : y.toFloat ≤ z.toFloat) :
    x.toFloat ≤ z.toFloat := by
  rw [toFloat_le_iff] at *
  exact ⟨h.1, h'.2.1, Int.le_trans h.2.2 h'.2.2⟩

end Shdlc.Double
