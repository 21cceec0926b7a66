import Mathlib.Data.List.Forall2
import Mathlib.Data.Nat.Digits.Defs
import Mathlib.Tactic.Ring
import Shdlc.Text.ProductType
import Shdlc.Proofs.Text.Trimming
/-!
Numerals between blanks. Main statement: `number_and_productType_read`, the two readers of numbers
take exactly the numerals of numbers that fit, and agree where both read base 16.
-/
namespace Shdlc.Text

/-- Whether `c` is written for `d` in a base of at most 16, as a small or as a capital letter. -/
def IsDigit (base : Nat) (c : Char) (d : Nat) : Prop := d < base ∧ c.toLower = d.digitChar

instance (base : Nat) (c : Char) (d : Nat) : Decidable (IsDigit base c d) :=
  inferInstanceAs (Decidable (d < base ∧ c.toLower = d.digitChar))

/-- Whether a text consists of digits, the highest first, that have the value `n`. There is at least
one; zeros may stand in front. -/
def HasValue (base : Nat) (text : List Char) (n : Nat) : Prop :=
  text ≠ [] ∧ ∃ digits, text.Forall₂ (IsDigit base) digits ∧ n = Nat.ofDigits base digits.reverse

/-- Whether a text consists of digits that have the value `n`, maybe after one plus sign. -/
def IsNumeral (base : Nat) (text : List Char) (n : Nat) : Prop :=
  HasValue base text n ∨ ∃ rest, text = '+' :: rest ∧ HasValue base rest n

/-- Whether a text is a numeral in base 16 behind `0x` or `0X`. -/
def IsPrefixed (text : List Char) (n : Nat) : Prop :=
  ∃ x rest, (x = 'x' ∨ x = 'X') ∧ text = '0' :: x :: rest ∧ IsNumeral 16 rest n

section Digits

variable {base : Nat} {c : Char} {d : Nat}

theorem toNat_lt_of_value? (h : Hexadecimal.value? c = some d) : c.toNat < 128 := by
  have hle : ∀ {m : Char}, m.toNat < 128 → c ≤ m → c.toNat < 128 := fun hm hc =>
    Nat.lt_of_le_of_lt hc hm
  unfold Hexadecimal.value? at h
  split at h
  · next hc => exact hle (by decide) hc.2
  · split at h
    · next hc => exact hle (by decide) hc.2
    · split at h
      · next hc => exact hle (by decide) hc.2
      · cases h

theorem toLower_of_le (h : 128 ≤ c.toNat) : c.toLower = c := by
  have hZ : ¬ c ≤ 'Z' := by
    intro hc
    have hle : c.toNat ≤ 90 := hc
    omega
  exact dif_neg fun hc => hZ hc.2

theorem value?_eq_some_iff (hd : d < 16) :
    Hexadecimal.value? c = some d ↔ c.toLower = d.digitChar := by
  have hascii : ∀ k < 128, ∀ d < 16, Hexadecimal.value? (Char.ofNat k) = some d ↔
      (Char.ofNat k).toLower = d.digitChar := by decide +kernel
  by_cases hc : c.toNat < 128
  · rw [← Char.ofNat_toNat c]
    exact hascii c.toNat hc d hd
  · constructor
    · intro h
      exact absurd (toNat_lt_of_value? h) hc
    · intro h
      have hdigits : ∀ d < 16, d.digitChar.toNat < 128 := by decide
      rw [toLower_of_le (Nat.le_of_not_lt hc)] at h
      exact absurd (h ▸ hdigits d hd) hc

theorem digit?_eq_some_iff (h16 : base ≤ 16) : digit? base c = some d ↔ IsDigit base c d := by
  rw [digit?, Option.filter_eq_some_iff, decide_eq_true_eq, IsDigit, and_comm]
  refine and_congr_right fun hd => ?_
  exact value?_eq_some_iff (Nat.lt_of_lt_of_le hd h16)

theorem IsDigit.unique (h16 : base ≤ 16) {d' : Nat} (h : IsDigit base c d)
    (h' : IsDigit base c d') : d = d' :=
  Option.some.inj (((digit?_eq_some_iff h16).2 h).symm.trans ((digit?_eq_some_iff h16).2 h'))

/-- No digit is blank, and none is a sign or the letter in a prefix. -/
theorem IsDigit.distinct (h16 : base ≤ 16) (h : IsDigit base c d) :
    isBlank c = false ∧ c ≠ '+' ∧ c ≠ 'x' ∧ c ≠ 'X' := by
  have hascii : ∀ k < 128, ∀ d < 16, (Char.ofNat k).toLower = d.digitChar →
      isBlank (Char.ofNat k) = false ∧ Char.ofNat k ≠ '+' ∧ Char.ofNat k ≠ 'x' ∧
        Char.ofNat k ≠ 'X' := by decide +kernel
  have hd := Nat.lt_of_lt_of_le h.1 h16
  obtain ⟨k, hk, rfl⟩ : ∃ k < 128, c = Char.ofNat k :=
    ⟨c.toNat, toNat_lt_of_value? ((value?_eq_some_iff hd).2 h.2), (Char.ofNat_toNat c).symm⟩
  exact hascii k hk d hd h.2

end Digits

section Reading

variable {base limit : Nat} {text : List Char} {n : Nat}

/-- One more digit in front of others counts for its place. -/
theorem add_ofDigits_cons (base value d : Nat) (digits : List Nat) :
    value * base ^ (d :: digits).length + Nat.ofDigits base (d :: digits).reverse =
      (value * base + d) * base ^ digits.length + Nat.ofDigits base digits.reverse := by
  rw [List.reverse_cons, Nat.ofDigits_append, Nat.ofDigits_singleton, List.length_cons,
    List.length_reverse]
  ring

theorem readDigits_eq_ok_iff (h16 : base ≤ 16) (hpos : 0 < base) {value : Nat}
    (hvalue : value ≤ limit) :
    readDigits base limit value text = .ok n ↔
      ∃ digits, text.Forall₂ (IsDigit base) digits ∧
        n = value * base ^ digits.length + Nat.ofDigits base digits.reverse ∧ n ≤ limit := by
  induction text generalizing value with
  | nil =>
    rw [readDigits]
    constructor
    · rintro ⟨⟩
      exact ⟨[], .nil, by simp, hvalue⟩
    · rintro ⟨digits, hdigits, hn, -⟩
      cases hdigits
      rw [hn]
      simp
  | cons c rest ih =>
    rw [readDigits]
    cases hd : digit? base c with
    | none =>
      constructor
      · rintro ⟨⟩
      · rintro ⟨digits, hdigits, -⟩
        cases hdigits with
        | cons hc _ => cases hd.symm.trans ((digit?_eq_some_iff h16).2 hc)
    | some d =>
      have hc := (digit?_eq_some_iff h16).1 hd
      dsimp only
      split
      · next hlarge =>
        constructor
        · rintro ⟨⟩
        · rintro ⟨digits, hdigits, hn, hle⟩
          cases hdigits with
          | @cons _ d' _ ds hc' hrest =>
            obtain rfl := hc.unique h16 hc'
            have hgrow : value * base + d ≤ (value * base + d) * base ^ ds.length :=
              Nat.le_mul_of_pos_right _ (Nat.pow_pos hpos)
            rw [add_ofDigits_cons] at hn
            omega
      · next hfits =>
        rw [ih (Nat.le_of_not_lt hfits)]
        constructor
        · rintro ⟨digits, hdigits, hn, hle⟩
          exact ⟨d :: digits, .cons hc hdigits, by rw [add_ofDigits_cons, hn], hle⟩
        · rintro ⟨digits, hdigits, hn, hle⟩
          cases hdigits with
          | @cons _ d' _ ds hc' hrest =>
            obtain rfl := hc.unique h16 hc'
            exact ⟨ds, hrest, by rw [hn, add_ofDigits_cons], hle⟩

theorem readDigits_zero_eq_ok_iff (h16 : base ≤ 16) (hpos : 0 < base) (hne : text ≠ []) :
    readDigits base limit 0 text = .ok n ↔ HasValue base text n ∧ n ≤ limit := by
  rw [readDigits_eq_ok_iff h16 hpos (Nat.zero_le limit), HasValue]
  simp only [Nat.zero_mul, Nat.zero_add, hne, ne_eq, not_false_eq_true, true_and]
  constructor
  · rintro ⟨digits, hdigits, hn, hle⟩
    exact ⟨⟨digits, hdigits, hn⟩, hle⟩
  · rintro ⟨⟨digits, hdigits, hn⟩, hle⟩
    exact ⟨digits, hdigits, hn, hle⟩

theorem not_hasValue_nil : ¬ HasValue base [] n := fun h => h.1 rfl

theorem isNumeral_plus_iff (h16 : base ≤ 16) {rest : List Char} :
    IsNumeral base ('+' :: rest) n ↔ HasValue base rest n := by
  constructor
  · rintro (⟨-, digits, hdigits, -⟩ | ⟨_, ⟨⟩, h⟩)
    · cases hdigits with
      | cons hc _ => exact absurd rfl (hc.distinct h16).2.1
    · exact h
  · exact fun h => .inr ⟨rest, rfl, h⟩

theorem isNumeral_iff_of_ne (h : ∀ rest, text ≠ '+' :: rest) :
    IsNumeral base text n ↔ HasValue base text n :=
  or_iff_left fun ⟨rest, heq, _⟩ => h rest heq

theorem readUnsigned_eq_ok_iff (h16 : base ≤ 16) (hpos : 0 < base) :
    readUnsigned base limit text = .ok n ↔ IsNumeral base text n ∧ n ≤ limit := by
  unfold readUnsigned
  split
  · rw [isNumeral_iff_of_ne (fun rest => List.cons_ne_nil '+' rest ∘ Eq.symm)]
    simp [not_hasValue_nil]
  · rw [isNumeral_plus_iff h16]
    simp [not_hasValue_nil]
  · next rest hne =>
    rw [isNumeral_plus_iff h16]
    exact readDigits_zero_eq_ok_iff h16 hpos hne
  · next hnil _ hplus =>
    rw [isNumeral_iff_of_ne hplus]
    exact readDigits_zero_eq_ok_iff h16 hpos hnil

theorem IsNumeral.isBlank_eq_false (h16 : base ≤ 16) (h : IsNumeral base text n) :
    ∀ c ∈ text, isBlank c = false := by
  have hvalue : ∀ {text}, HasValue base text n → ∀ c ∈ text, isBlank c = false := by
    rintro text ⟨-, digits, hdigits, -⟩
    have hboth := hdigits.imp fun c d hc => (⟨(hc.distinct h16).1, hc⟩ : isBlank c = false ∧ _)
    exact ((List.forall₂_and_left _ _).1 hboth).1
  rcases h with h | ⟨rest, rfl, h⟩
  · exact hvalue h
  · exact List.forall_mem_cons.2 ⟨rfl, hvalue h⟩

theorem isPrefixed_iff :
    IsPrefixed text n ↔ ∃ rest, afterHexPrefix? text = some rest ∧ IsNumeral 16 rest n := by
  simp only [afterHexPrefix?_eq_some_iff]
  constructor
  · rintro ⟨x, rest, hx, heq, h⟩
    exact ⟨rest, ⟨x, hx, heq⟩, h⟩
  · rintro ⟨rest, ⟨x, hx, heq⟩, h⟩
    exact ⟨x, rest, hx, heq, h⟩

theorem IsPrefixed.isBlank_eq_false (h : IsPrefixed text n) : ∀ c ∈ text, isBlank c = false := by
  obtain ⟨x, rest, hx, rfl, hrest⟩ := h
  exact List.forall_mem_cons.2 ⟨rfl, List.forall_mem_cons.2
    ⟨isBlank_eq_false_of_mark hx, hrest.isBlank_eq_false (Nat.le_refl 16)⟩⟩

/-- A prefix makes no part of a numeral. -/
theorem not_isNumeral_of_afterHexPrefix? (h16 : base ≤ 16) {rest : List Char}
    (h : afterHexPrefix? text = some rest) : ¬ IsNumeral base text n := by
  obtain ⟨x, hx, rfl⟩ := afterHexPrefix?_eq_some_iff.1 h
  rintro (⟨-, digits, hdigits, -⟩ | ⟨_, ⟨⟩, -⟩)
  cases hdigits with
  | cons _ hrest =>
    cases hrest with
    | cons hc _ =>
      obtain ⟨-, -, hsmall, hcapital⟩ := hc.distinct h16
      exact hx.elim hsmall hcapital

end Reading

section Readers

variable {limit n : Nat}

theorem narrow_eq_ok_iff {m : Nat} {e : NumberError} :
    (if m ≤ limit then .ok m else .error e : Except NumberError Nat) = .ok n ↔
      n ≤ limit ∧ m = n := by
  by_cases hle : m ≤ limit
  · simp only [hle, if_true, Except.ok.injEq]
    exact ⟨fun h => ⟨h ▸ hle, h⟩, And.right⟩
  · simp only [hle, if_false]
    exact ⟨nofun, fun h => absurd (h.2 ▸ h.1) hle⟩

theorem number_eq_ok_iff_trim (hlimit : limit ≤ maxWord) (text : String) :
    number limit text = .ok n ↔ n ≤ limit ∧
      (IsNumeral 10 (trim text.toList) n ∨ IsPrefixed (trim text.toList) n) := by
  rw [isPrefixed_iff]
  cases hmark : afterHexPrefix? (trim text.toList) with
  | none =>
    have hread : number limit text = .ok n ↔
        n ≤ limit ∧ readUnsigned 10 maxWord (trim text.toList) = .ok n := by
      simp only [number, hmark]
      cases readUnsigned 10 maxWord (trim text.toList) with
      | error fault => simp
      | ok m => simp only [narrow_eq_ok_iff, Except.ok.injEq]
    refine hread.trans (and_congr_right fun hle => ?_)
    rw [readUnsigned_eq_ok_iff (by decide) (by decide)]
    simp [Nat.le_trans hle hlimit]
  | some digits =>
    have hdecimal : ¬ IsNumeral 10 (trim text.toList) n :=
      not_isNumeral_of_afterHexPrefix? (by decide) hmark
    have hread : number limit text = .ok n ↔
        n ≤ limit ∧ readUnsigned 16 maxWord digits = .ok n := by
      simp only [number, hmark]
      cases readUnsigned 16 maxWord digits with
      | error fault => simp
      | ok m => simp only [narrow_eq_ok_iff, Except.ok.injEq]
    refine hread.trans (and_congr_right fun hle => ?_)
    rw [readUnsigned_eq_ok_iff (by decide) (by decide)]
    simp [Nat.le_trans hle hlimit, hdecimal]

theorem productType_eq_ok_iff_trim (text : String) (v : UInt32) :
    productType text = .ok v ↔
      IsNumeral 16 (trim text.toList) v.toNat ∨ IsPrefixed (trim text.toList) v.toNat := by
  have hread : productType text = .ok v ↔
      readUnsigned 16 maxWord32 ((afterHexPrefix? (trim text.toList)).getD (trim text.toList)) =
        .ok v.toNat := by
    unfold productType
    dsimp only
    split
    · next m hm =>
      obtain ⟨-, hle⟩ := (readUnsigned_eq_ok_iff (by decide) (by decide)).1 hm
      rw [hm, Except.ok.injEq, Except.ok.injEq]
      have hword : (UInt32.ofNat m).toNat = m := UInt32.toNat_ofNat_of_lt' (Nat.lt_succ_of_le hle)
      constructor
      · rintro rfl
        exact hword.symm
      · rintro rfl
        exact UInt32.ofNat_toNat
    · next fault hf => simp [hf]
  have hword : v.toNat ≤ maxWord32 := Nat.le_of_lt_succ v.toNat_lt
  rw [hread, readUnsigned_eq_ok_iff (by decide) (by decide), isPrefixed_iff]
  cases hmark : afterHexPrefix? (trim text.toList) with
  | none => simp [hword]
  | some digits =>
    have hbare : ¬ IsNumeral 16 (trim text.toList) v.toNat :=
      not_isNumeral_of_afterHexPrefix? (Nat.le_refl 16) hmark
    simp [hword, hbare]

theorem number_eq_ok_iff (hlimit : limit ≤ maxWord) (text : String) :
    number limit text = .ok n ↔ n ≤ limit ∧ ∃ core, IsPadded core text.toList ∧
      (IsNumeral 10 core n ∨ IsPrefixed core n) := by
  rw [number_eq_ok_iff_trim hlimit, exists_isPadded_iff]
  rintro core (h | h)
  · exact isTrimmed_of_forall (h.isBlank_eq_false (by decide))
  · exact isTrimmed_of_forall h.isBlank_eq_false

theorem productType_eq_ok_iff (text : String) (v : UInt32) :
    productType text = .ok v ↔ ∃ core, IsPadded core text.toList ∧
      (IsNumeral 16 core v.toNat ∨ IsPrefixed core v.toNat) := by
  rw [productType_eq_ok_iff_trim, exists_isPadded_iff]
  rintro core (h | h)
  · exact isTrimmed_of_forall (h.isBlank_eq_false (by decide))
  · exact isTrimmed_of_forall h.isBlank_eq_false

/-- Where a prefix says that the base is 16, both readers read the same. -/
theorem productType_eq_number {text : String} {rest : List Char}
    (h : afterHexPrefix? (trim text.toList) = some rest) :
    (productType text).toOption.map UInt32.toNat = (number maxWord32 text).toOption := by
  have htype : ∀ v, productType text = .ok v ↔ IsPrefixed (trim text.toList) v.toNat := by
    intro v
    rw [productType_eq_ok_iff_trim, or_iff_right (not_isNumeral_of_afterHexPrefix? (by decide) h)]
  have hnumber : ∀ n, number maxWord32 text = .ok n ↔
      n ≤ maxWord32 ∧ IsPrefixed (trim text.toList) n := by
    intro n
    rw [number_eq_ok_iff_trim (by decide),
      or_iff_right (not_isNumeral_of_afterHexPrefix? (by decide) h)]
  cases ht : productType text with
  | ok v =>
    have hword : v.toNat ≤ maxWord32 := Nat.le_of_lt_succ v.toNat_lt
    rw [(hnumber v.toNat).2 ⟨hword, (htype v).1 ht⟩]
    rfl
  | error e =>
    cases hn : number maxWord32 text with
    | error e => rfl
    | ok n =>
      obtain ⟨hle, hp⟩ := (hnumber n).1 hn
      have hword : (UInt32.ofNat n).toNat = n := UInt32.toNat_ofNat_of_lt' (Nat.lt_succ_of_le hle)
      rw [← hword, ← htype, ht] at hp
      cases hp

end Readers

section Rendering

variable {base n : Nat}

/-- Whether `c` is the digit `d`, as numbers are written. -/
abbrev WritesDigit (base : Nat) (c : Char) (d : Nat) : Prop := d < base ∧ c = d.digitChar

/-- A number is written with the digits that have its value. -/
theorem exists_digits_toDigits (hbase : 1 < base) (n : Nat) :
    ∃ digits, (Nat.toDigits base n).Forall₂ (WritesDigit base) digits ∧
      n = Nat.ofDigits base digits.reverse := by
  induction n using Nat.strongRecOn with
  | ind n ih =>
    by_cases hn : n < base
    · rw [Nat.toDigits_of_lt_base hn]
      exact ⟨[n], .cons ⟨hn, rfl⟩ .nil, by simp⟩
    · have hle : base ≤ n := Nat.le_of_not_lt hn
      have hpos : 0 < base := Nat.lt_of_succ_lt hbase
      obtain ⟨digits, hdigits, hvalue⟩ := ih (n / base) (Nat.div_lt_self (by omega) hbase)
      refine ⟨digits ++ [n % base], ?_, ?_⟩
      · rw [Nat.toDigits_of_base_le hbase hle]
        exact List.rel_append hdigits (.cons ⟨Nat.mod_lt n hpos, rfl⟩ .nil)
      · rw [List.reverse_append, List.reverse_singleton, List.singleton_append, Nat.ofDigits_cons,
          ← hvalue]
        exact (Nat.mod_add_div n base).symm

theorem forall₂_replicate_zero (hbase : 1 < base) (zeros : Nat) :
    (List.replicate zeros '0').Forall₂ (WritesDigit base) (List.replicate zeros 0) := by
  induction zeros with
  | zero => exact .nil
  | succ k ih => exact .cons ⟨Nat.lt_of_succ_lt hbase, rfl⟩ ih

/-- The digits of a number have its value, in letters of any case and behind any zeros. -/
theorem hasValue_of_map_toLower (hbase : 1 < base) {text : List Char} {zeros : Nat}
    (h : text.map Char.toLower = List.replicate zeros '0' ++ Nat.toDigits base n) :
    HasValue base text n := by
  obtain ⟨digits, hdigits, hvalue⟩ := exists_digits_toDigits hbase n
  refine ⟨?_, List.replicate zeros 0 ++ digits, ?_, ?_⟩
  · rintro rfl
    exact Nat.toDigits_ne_nil (List.append_eq_nil_iff.1 h.symm).2
  · have hall : (List.replicate zeros '0' ++ Nat.toDigits base n).Forall₂ (WritesDigit base)
        (List.replicate zeros 0 ++ digits) :=
      List.rel_append (forall₂_replicate_zero hbase zeros) hdigits
    rw [← h, List.forall₂_map_left_iff] at hall
    exact hall
  · rw [List.reverse_append, List.reverse_replicate, Nat.ofDigits_append_replicate_zero, hvalue]

theorem isNumeral_toString (n : Nat) : IsNumeral 10 (toString n).toList n := by
  have h : (toString n).toList = Nat.toDigits 10 n := Nat.toList_repr
  have hsmall : ∀ d < 10, d.digitChar.toLower = d.digitChar := by decide
  obtain ⟨digits, hdigits, hvalue⟩ := exists_digits_toDigits (by decide : 1 < 10) n
  rw [h]
  refine .inl ⟨Nat.toDigits_ne_nil, digits, hdigits.imp ?_, hvalue⟩
  rintro c d ⟨hd, rfl⟩
  exact ⟨hd, hsmall d hd⟩

end Rendering

/-- Numbers are read as such exactly if they stand between blanks, in base 10, or in base 16 behind
`0x`, with at most one plus sign in front of the digits and any number of zeros, and if they are not
above the limit. Product types are read so as 32-bit words in base 16, whether the prefix is there or
not. Behind the prefix the two agree, and every word is read back as it is written, in letters of
any case. -/
theorem number_and_productType_read :
    (∀ limit ≤ maxWord, ∀ text n, number limit text = .ok n ↔
      n ≤ limit ∧ ∃ core, IsPadded core text.toList ∧ (IsNumeral 10 core n ∨ IsPrefixed core n)) ∧
    (∀ text v, productType text = .ok v ↔
      ∃ core, IsPadded core text.toList ∧
        (IsNumeral 16 core v.toNat ∨ IsPrefixed core v.toNat)) ∧
    (∀ (text : String) (before rest : List Char) (x : Char), x = 'x' ∨ x = 'X' →
      text.toList = before ++ '0' :: x :: rest → (∀ c ∈ before, isBlank c = true) →
        (productType text).toOption.map UInt32.toNat = (number maxWord32 text).toOption) ∧
    ∀ v : UInt32, number maxWord32 (toString v.toNat) = .ok v.toNat ∧
      ∀ (text : String) (rest : List Char) (x : Char) (zeros : Nat), x = 'x' ∨ x = 'X' →
        text.toList = '0' :: x :: rest →
        rest.map Char.toLower = List.replicate zeros '0' ++ Nat.toDigits 16 v.toNat →
          number maxWord32 text = .ok v.toNat ∧ productType text = .ok v := by
  refine ⟨fun limit hlimit text n => number_eq_ok_iff hlimit text, productType_eq_ok_iff, ?_, ?_⟩
  · intro text before rest x hx htext hbefore
    have hletter : isBlank x = false := by
      rcases hx with rfl | rfl
      · rfl
      · rfl
    have hzero : isBlank '0' = false := rfl
    obtain ⟨kept, hkept⟩ := exists_trim_eq_cons_cons hbefore hzero hletter rest
    apply productType_eq_number
    rw [htext, hkept, afterHexPrefix?_eq_some_iff]
    exact ⟨x, hx, rfl⟩
  · intro v
    have hword : v.toNat ≤ maxWord32 := Nat.le_of_lt_succ v.toNat_lt
    constructor
    · rw [number_eq_ok_iff (by decide)]
      exact ⟨hword, _, isPadded_self _, .inl (isNumeral_toString v.toNat)⟩
    · intro text rest x zeros hx htext hrest
      have hprefixed : IsPrefixed text.toList v.toNat :=
        ⟨x, rest, hx, htext, .inl (hasValue_of_map_toLower (by decide) hrest)⟩
      rw [number_eq_ok_iff (by decide), productType_eq_ok_iff]
      exact ⟨⟨hword, _, isPadded_self _, .inr hprefixed⟩, _, isPadded_self _, .inr hprefixed⟩

/-- A byte and a product type with all that may stand around their digits, a word that is too large
for either reader, and a word in letters of both cases. -/
theorem number_and_productType_read_padded :
    number 0xFF "\t0X+00fF\u3000" = .ok 0xFF ∧ productType " +0080000\n" = .ok 0x80000 ∧
      (productType "0x100000000").toOption.map UInt32.toNat =
        (number maxWord32 "0x100000000").toOption ∧
      number maxWord32 "0XaBcDeF01" = .ok 0xABCDEF01 ∧
      productType "0XaBcDeF01" = .ok 0xABCDEF01 := by
  obtain ⟨hnumber, htype, hagree, hback⟩ := number_and_productType_read
  refine ⟨?_, ?_, ?_, ?_⟩
  · have hvalue : HasValue 16 "00fF".toList 0xFF := ⟨by decide, [0, 0, 15, 15], by decide, rfl⟩
    rw [hnumber 0xFF (by decide)]
    exact ⟨by decide, "0X+00fF".toList, ⟨['\t'], ['\u3000'], rfl, List.all_eq_true.1 rfl⟩,
      .inr ⟨'X', _, .inr rfl, rfl, .inr ⟨_, rfl, hvalue⟩⟩⟩
  · have hvalue : HasValue 16 "0080000".toList 0x80000 :=
      ⟨by decide, [0, 0, 8, 0, 0, 0, 0], by decide, rfl⟩
    rw [htype]
    exact ⟨"+0080000".toList, ⟨[' '], ['\n'], rfl, List.all_eq_true.1 rfl⟩,
      .inl (.inr ⟨_, rfl, hvalue⟩)⟩
  · exact hagree "0x100000000" [] "100000000".toList 'x' (.inl rfl) rfl nofun
  · exact (hback 0xABCDEF01).2 "0XaBcDeF01" "aBcDeF01".toList 'X' 0 (.inr rfl) rfl rfl

end Shdlc.Text
