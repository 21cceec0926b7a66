import Shdlc.Json.Members
import Shdlc.Json.Reader
/-!
The numerals of integers, read. Main statements: the numeral of an integer is read as the integer as
long as it fits into a word, and never as a natural number that it is not.
-/
namespace Shdlc

namespace Json

namespace Numeral

/-- The numeral that characters make. -/
def read? : List Char → Option Numeral
  | [] => none
  | c :: rest => (start? c).bind fun n => rest.foldlM next? n

/-- The value of a numeral that is complete. -/
def json (n : Numeral) : Json :=
  match n.value? with
  | some value => .number value
  | none => .unreadable

/-- Whether a numeral has been read as that of `m`, behind a minus sign or not. -/
structure Holds (n : Numeral) (negative : Bool) (m : Nat) : Prop where
  sign : n.negative = negative
  stage : n.stage = if m = 0 then .zero else .integer
  fits : m ≤ Text.maxWord → n.wide = false ∧ n.significand = m
  wide : Text.maxWord < m → n.wide = true

section Read

theorem digit?_digitChar {d : Nat} (h : d < 10) : Text.digit? 10 d.digitChar = some d := by
  have hall : ∀ d : Fin 10, Text.digit? 10 d.val.digitChar = some d.val := by decide
  exact hall ⟨d, h⟩

theorem digitChar_eq_zero_iff {d : Nat} (h : d < 10) : d.digitChar = '0' ↔ d = 0 := by
  have hall : ∀ d : Fin 10, d.val.digitChar = '0' ↔ d.val = 0 := by decide
  exact hall ⟨d, h⟩

theorem digitChar_ne {d : Nat} (h : d < 10) :
    d.digitChar ≠ '-' ∧ d.digitChar ≠ '.' ∧ d.digitChar ≠ 'e' ∧ d.digitChar ≠ 'E' := by
  have hall : ∀ d : Fin 10, d.val.digitChar ≠ '-' ∧ d.val.digitChar ≠ '.' ∧
      d.val.digitChar ≠ 'e' ∧ d.val.digitChar ≠ 'E' := by decide
  exact hall ⟨d, h⟩

theorem holds_zero (negative : Bool) : Holds { stage := .zero, negative } negative 0 where
  sign := rfl
  stage := rfl
  fits _ := ⟨rfl, rfl⟩
  wide h := absurd h (Nat.not_lt_zero _)

theorem holds_digit (negative : Bool) {d : Nat} (h : d < 10) (hd : d ≠ 0) :
    Holds { stage := .integer, negative, significand := d } negative d where
  sign := rfl
  stage := (if_neg hd).symm
  fits _ := ⟨rfl, rfl⟩
  wide hw := absurd hw (by rw [Text.maxWord]; omega)

theorem start?_digitChar {d : Nat} (h : d < 10) :
    ∃ n, start? d.digitChar = some n ∧ n.Holds false d := by
  rw [start?, if_neg (digitChar_ne h).1]
  by_cases hd : d = 0
  · rw [if_pos ((digitChar_eq_zero_iff h).2 hd), hd]
    exact ⟨_, rfl, holds_zero false⟩
  · rw [if_neg fun hz => hd ((digitChar_eq_zero_iff h).1 hz), digit?_digitChar h]
    exact ⟨_, rfl, holds_digit false h hd⟩

theorem next?_minus_digitChar {d : Nat} (h : d < 10) :
    ∃ n, next? { stage := .minus, negative := true } d.digitChar = some n ∧ n.Holds true d := by
  rw [next?]
  by_cases hd : d = 0
  · rw [if_pos ((digitChar_eq_zero_iff h).2 hd), hd]
    exact ⟨_, rfl, holds_zero true⟩
  · rw [if_neg fun hz => hd ((digitChar_eq_zero_iff h).1 hz), digit?_digitChar h]
    exact ⟨_, rfl, holds_digit true h hd⟩

/-- One more digit behind the numeral of `m`. -/
theorem Holds.addWhole {n : Numeral} {negative : Bool} {m d : Nat} (hn : n.Holds negative m)
    (hm : m ≠ 0) : (n.addWhole d).Holds negative (10 * m + d) := by
  have hz : 10 * m + d ≠ 0 := by omega
  unfold Numeral.addWhole
  by_cases hw : Text.maxWord < m
  · rw [hn.wide hw, Bool.true_or, if_pos rfl]
    exact ⟨hn.sign, (if_neg hz).symm, fun hle => by omega, fun _ => rfl⟩
  · obtain ⟨hwide, hs⟩ := hn.fits (Nat.not_lt.1 hw)
    rw [hwide, hs, Bool.false_or]
    by_cases hd : Text.maxWord < m * 10 + d
    · rw [if_pos (decide_eq_true hd)]
      exact ⟨hn.sign, (if_neg hz).symm, fun hle => by omega, fun _ => rfl⟩
    · rw [if_neg (by simpa using hd)]
      exact ⟨hn.sign, (if_neg hz).symm, fun _ => ⟨rfl, by rw [Nat.mul_comm]⟩,
        fun hlt => by omega⟩

theorem Holds.next?_digitChar {n : Numeral} {negative : Bool} {m d : Nat}
    (hn : n.Holds negative m) (hm : m ≠ 0) (hd : d < 10) :
    n.next? d.digitChar = some (n.addWhole d) := by
  obtain ⟨-, hpoint, hsmall, hcapital⟩ := digitChar_ne hd
  have hs : n.stage = .integer := hn.stage.trans (if_neg hm)
  simp only [next?, hs]
  rw [if_neg hpoint, if_neg (not_or_intro hsmall hcapital), digit?_digitChar hd]
  rfl

theorem Holds.isPlain_eq {n : Numeral} {negative : Bool} {m : Nat} (hn : n.Holds negative m) :
    n.isPlain = decide (m ≤ Text.maxWord) := by
  have hs : n.stage = .zero ∨ n.stage = .integer := by
    rw [hn.stage]
    by_cases hm : m = 0
    · exact .inl (if_pos hm)
    · exact .inr (if_neg hm)
  by_cases hm : m ≤ Text.maxWord
  · simp [isPlain, hs, (hn.fits hm).1, hm]
  · simp [isPlain, hn.wide (Nat.not_le.1 hm), hm]

theorem read?_concat {l : List Char} (h : l ≠ []) (c : Char) :
    read? (l ++ [c]) = (read? l).bind fun n => n.next? c := by
  cases l with
  | nil => exact absurd rfl h
  | cons a rest =>
    simp only [List.cons_append, read?, List.foldlM_append]
    cases start? a with
    | none => rfl
    | some n => simp

/-- The digits of a number behind what makes a numeral of its first digit. -/
theorem exists_foldlM_toDigits {first : List Char} {negative : Bool}
    (h : ∀ d < 10, ∃ n, read? (first ++ [d.digitChar]) = some n ∧ n.Holds negative d) (m : Nat) :
    ∃ n, read? (first ++ Nat.toDigits 10 m) = some n ∧ n.Holds negative m := by
  induction m using Nat.strongRecOn with
  | ind m ih =>
    by_cases hm : m < 10
    · rw [Nat.toDigits_of_lt_base hm]
      exact h m hm
    · have hten : 10 ≤ m := Nat.not_lt.1 hm
      obtain ⟨n, hn, hholds⟩ := ih (m / 10) (by omega)
      have hz : m / 10 ≠ 0 := by omega
      have hd : m % 10 < 10 := Nat.mod_lt m (by decide)
      have hne : first ++ Nat.toDigits 10 (m / 10) ≠ [] := by simp [Nat.toDigits_ne_nil]
      rw [Nat.toDigits_of_base_le (by decide) hten, ← List.append_assoc, read?_concat hne, hn,
        Option.bind_some, hholds.next?_digitChar hz hd]
      have hadd := hholds.addWhole (d := m % 10) hz
      rw [Nat.div_add_mod m 10] at hadd
      exact ⟨_, rfl, hadd⟩

theorem toList_toString (n : Int) : (toString n).toList =
    (if n < 0 then ['-'] else []) ++ Nat.toDigits 10 n.natAbs := by
  rw [Int.toString_eq_repr, Int.repr_eq_if]
  by_cases hn : n < 0
  · rw [if_pos hn, if_neg (by omega), String.toList_append, Nat.toList_repr,
      show (-n).toNat = n.natAbs by omega]
    rfl
  · rw [if_neg hn, if_pos (by omega), Nat.toList_repr, show n.toNat = n.natAbs by omega,
      List.nil_append]

/-- The numeral of an integer is read as such. -/
theorem exists_read?_toString (n : Int) :
    ∃ m, read? (toString n).toList = some m ∧ m.Holds (decide (n < 0)) n.natAbs := by
  rw [toList_toString]
  by_cases hn : n < 0
  · rw [if_pos hn, decide_eq_true hn]
    apply exists_foldlM_toDigits
    intro d hd
    obtain ⟨m, hm, hholds⟩ := next?_minus_digitChar hd
    exact ⟨m, by rw [← hm]; simp [read?, start?], hholds⟩
  · rw [if_neg hn, decide_eq_false hn]
    apply exists_foldlM_toDigits
    intro d hd
    obtain ⟨m, hm, hholds⟩ := start?_digitChar hd
    exact ⟨m, by rw [List.nil_append, read?, hm]; rfl, hholds⟩

end Read

end Numeral

/-- What is read of the numeral of an integer. -/
def ofInt (n : Int) : Json :=
  match Numeral.read? (toString n).toList with
  | some m => m.json
  | none => .unreadable

theorem ofInt_natCast {n : Nat} (h : n ≤ Text.maxWord) : ofInt n = ofNat n := by
  obtain ⟨m, hm, hholds⟩ := Numeral.exists_read?_toString n
  have hpos : ¬ (n : Int) < 0 := by omega
  have hsign := hholds.sign
  rw [decide_eq_false hpos] at hsign
  rw [ofInt, hm]
  simp only [Numeral.json, Numeral.value?, hholds.isPlain_eq, Int.natAbs_natCast, h, hsign,
    (hholds.fits h).2]
  rfl

/-- No integer passes for a number in a range in which it is not. -/
theorem natural?_ofInt {n : Int} {most : Nat} (h : ¬ (0 ≤ n ∧ n ≤ most)) :
    (ofInt n).natural? most = none := by
  obtain ⟨m, hr, hholds⟩ := Numeral.exists_read?_toString n
  simp only [ofInt, hr, Numeral.json, Numeral.value?, hholds.isPlain_eq, hholds.sign]
  by_cases hfits : n.natAbs ≤ Text.maxWord
  · rw [if_pos (decide_eq_true hfits), (hholds.fits hfits).2]
    by_cases hn : n < 0
    · rw [if_neg (by simp [hn])]
      split
      · next v hv =>
        split at hv
        · cases hv
          exact if_neg (by omega)
        · cases hv
          rfl
      · rfl
    · rw [if_pos (by simp [hn])]
      exact if_neg (by omega)
  · rw [if_neg (by simpa using hfits)]
    cases m.double? <;> rfl

end Json

end Shdlc
