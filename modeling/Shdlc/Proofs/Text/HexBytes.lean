import Shdlc.Text.HexBytes
import Shdlc.Proofs.Text.Numerals
/-!
Bytes in base 16. Main statement: `hexBytes_reads`, those texts are read that write two digits for
each byte, with blanks anywhere and at most one prefix, and no others.
-/
namespace Shdlc

namespace Hexadecimal

open Text (IsDigit)

variable {c : Char} {d : Nat} {digits : List Char} {bytes : Bytes}

theorem value?_eq_some_iff_isDigit : value? c = some d ↔ IsDigit 16 c d := by
  constructor
  · intro h
    have hascii : ∀ k < 128, ∀ d ∈ value? (Char.ofNat k), d < 16 := by decide +kernel
    have hc := Text.toNat_lt_of_value? h
    rw [← Char.ofNat_toNat c] at h
    have hd := hascii c.toNat hc d h
    rw [Char.ofNat_toNat] at h
    exact ⟨hd, (Text.value?_eq_some_iff hd).1 h⟩
  · rintro ⟨hd, h⟩
    exact (Text.value?_eq_some_iff hd).2 h

/-- A text of pairs of digits has two digits for each byte, and nothing else. -/
theorem digits_of_pairs? (h : pairs? digits = some bytes) :
    (digits.all fun c => (value? c).isSome) = true ∧ digits.length = 2 * bytes.length := by
  fun_induction pairs? digits generalizing bytes with
  | case1 =>
    cases h
    exact ⟨rfl, rfl⟩
  | case2 c => cases h
  | case3 high low rest ih =>
    cases hh : value? high with
    | none => simp [hh] at h
    | some m =>
      cases hl : value? low with
      | none => simp [hh, hl] at h
      | some n =>
        cases hr : pairs? rest with
        | none => simp [hh, hl, hr] at h
        | some more =>
          obtain ⟨hall, hlen⟩ := ih hr
          obtain rfl : UInt8.ofNat (16 * m + n) :: more = bytes := by simpa [hh, hl, hr] using h
          refine ⟨?_, ?_⟩
          · simpa [hh, hl] using hall
          · rw [List.length_cons, List.length_cons, List.length_cons, hlen]
            omega

theorem pairs?_eq_some_nil_iff : pairs? digits = some [] ↔ digits = [] := by
  constructor
  · intro h
    exact List.length_eq_zero_iff.1 (digits_of_pairs? h).2
  · rintro rfl
    rfl

/-- A byte is read from the digits of its two halves. -/
theorem pairs?_eq_some_cons_iff {b : UInt8} :
    pairs? digits = some (b :: bytes) ↔ ∃ high low rest, digits = high :: low :: rest ∧
      IsDigit 16 high (b.toNat / 16) ∧ IsDigit 16 low (b.toNat % 16) ∧
        pairs? rest = some bytes := by
  simp only [← value?_eq_some_iff_isDigit]
  constructor
  · intro h
    unfold pairs? at h
    split at h
    · cases h
    · cases h
    · next high low rest =>
      simp only [Option.bind_eq_bind, Option.bind_eq_some_iff] at h
      obtain ⟨m, hm, n, hn, more, hmore, heq⟩ := h
      obtain ⟨rfl, rfl⟩ := List.cons.inj (Option.some.inj heq)
      have hm16 := (value?_eq_some_iff_isDigit.1 hm).1
      have hn16 := (value?_eq_some_iff_isDigit.1 hn).1
      have hbyte : (UInt8.ofNat (16 * m + n)).toNat = 16 * m + n :=
        UInt8.toNat_ofNat_of_lt' (by simp only [UInt8.size]; omega)
      have hhigh : (16 * m + n) / 16 = m := by omega
      have hlow : (16 * m + n) % 16 = n := by omega
      refine ⟨high, low, rest, rfl, ?_, ?_, hmore⟩
      · rw [hbyte, hhigh, hm]
      · rw [hbyte, hlow, hn]
  · rintro ⟨high, low, rest, rfl, hhigh, hlow, hrest⟩
    have hbyte : UInt8.ofNat (16 * (b.toNat / 16) + b.toNat % 16) = b := by
      rw [Nat.div_add_mod, UInt8.ofNat_toNat]
    simp only [pairs?, hhigh, hlow, hrest, Option.bind_eq_bind, Option.bind_some, hbyte,
      Option.pure_def]

/-- Where one character is no digit, nothing is read. -/
theorem pairs?_eq_none_of_mem (hc : c ∈ digits) (h : value? c = none) :
    pairs? digits = none := by
  cases hp : pairs? digits with
  | none => rfl
  | some bytes =>
    have hsome := List.all_eq_true.1 (digits_of_pairs? hp).1 c hc
    rw [h] at hsome
    cases hsome

end Hexadecimal

namespace Text

/-- Whether a text writes bytes: two digits for each, letters of either case, and blanks in front of
any digit and at the end. -/
inductive WritesBytes : List Char → Bytes → Prop where
  | nil {blanks : List Char} (blank : ∀ c ∈ blanks, isBlank c = true) : WritesBytes blanks []
  | cons {before between rest : List Char} {high low : Char} {b : UInt8} {bytes : Bytes}
    (before_blank : ∀ c ∈ before, isBlank c = true) (high_digit : IsDigit 16 high (b.toNat / 16))
    (between_blank : ∀ c ∈ between, isBlank c = true)
    (low_digit : IsDigit 16 low (b.toNat % 16)) (rest_writes : WritesBytes rest bytes) :
    WritesBytes (before ++ high :: (between ++ low :: rest)) (b :: bytes)

section Digits

variable {text : List Char} {bytes : Bytes}

theorem filter_eq_nil_of_isBlank {blanks : List Char} (h : ∀ c ∈ blanks, isBlank c = true) :
    blanks.filter (fun c => !isBlank c) = [] := by
  rw [List.filter_eq_nil_iff]
  simpa using h

/-- A text writes bytes if its digits, the blanks left out, are read as these. -/
theorem writesBytes_iff_pairs? :
    WritesBytes text bytes ↔
      Hexadecimal.pairs? (text.filter fun c => !isBlank c) = some bytes := by
  constructor
  · intro h
    induction h with
    | nil blank =>
      rw [filter_eq_nil_of_isBlank blank]
      rfl
    | @cons before between rest high low b bytes hbefore hhigh hbetween hlow _ ih =>
      have hh : isBlank high = false := (hhigh.distinct (Nat.le_refl 16)).1
      have hl : isBlank low = false := (hlow.distinct (Nat.le_refl 16)).1
      rw [Hexadecimal.pairs?_eq_some_cons_iff]
      refine ⟨high, low, _, ?_, hhigh, hlow, ih⟩
      simp [List.filter_append, filter_eq_nil_of_isBlank hbefore,
        filter_eq_nil_of_isBlank hbetween, hh, hl]
  · intro h
    induction bytes generalizing text with
    | nil =>
      rw [Hexadecimal.pairs?_eq_some_nil_iff, List.filter_eq_nil_iff] at h
      exact .nil (by simpa using h)
    | cons b bytes ih =>
      obtain ⟨high, low, rest, htext, hhigh, hlow, hrest⟩ := Hexadecimal.pairs?_eq_some_cons_iff.1 h
      obtain ⟨before, behind, rfl, hbefore, -, hbehind⟩ := List.filter_eq_cons_iff.1 htext
      obtain ⟨between, more, rfl, hbetween, -, rfl⟩ := List.filter_eq_cons_iff.1 hbehind
      exact .cons (by simpa using hbefore) hhigh (by simpa using hbetween) hlow (ih hrest)

end Digits

section Units

variable {text : List Char} {units : Bytes} {position : Nat} {bytes : Bytes}

theorem toList_eq_data_toList (bs : ByteArray) : bs.toList = bs.data.toList := by
  have hloop : ∀ i read,
      ByteArray.toList.loop bs i read = read.reverse ++ bs.data.toList.drop i := by
    intro i read
    fun_induction ByteArray.toList.loop bs i read with
    | case1 i read hi ih =>
      have hlen : i < bs.data.toList.length := hi
      have hget : bs.get! i = bs.data.toList[i] := getElem!_pos bs.data i hi
      rw [ih, List.drop_eq_getElem_cons hlen, hget, List.reverse_cons, List.append_assoc]
      rfl
    | case2 i read hi =>
      rw [List.drop_eq_nil_of_le (Nat.le_of_not_lt hi), List.append_nil]
  exact hloop 0 []

theorem toList_toUTF8_ofList (text : List Char) :
    (String.ofList text).toUTF8.toList = text.flatMap String.utf8EncodeChar := by
  rw [toList_eq_data_toList, String.toUTF8_eq_toByteArray, String.toByteArray_ofList,
    List.utf8Encode, List.data_toByteArray]

theorem readPairsFrom_eq_ok_iff :
    readPairsFrom position units = .ok bytes ↔
      Hexadecimal.pairs? (units.map fun u => Char.ofNat u.toNat) = some bytes := by
  fun_induction readPairsFrom position units generalizing bytes with
  | case1 position => simp [Hexadecimal.pairs?]
  | case2 position u => simp [Hexadecimal.pairs?]
  | case3 position high low rest hhigh => simp [Hexadecimal.pairs?, hhigh]
  | case4 position high low rest h hhigh hlow => simp [Hexadecimal.pairs?, hhigh, hlow]
  | case5 position high low rest h l hhigh hlow ih =>
    cases hrest : readPairsFrom (position + 2) rest with
    | ok more => simp [Hexadecimal.pairs?, hhigh, hlow, ih.1 hrest]
    | error fault =>
      have hnone : Hexadecimal.pairs? (rest.map fun u => Char.ofNat u.toNat) = none :=
        Option.eq_none_iff_forall_ne_some.2 fun more h => by cases hrest.symm.trans (ih.2 h)
      simp [Hexadecimal.pairs?, hhigh, hlow, hnone]

theorem utf8EncodeChar_of_lt {c : Char} (h : c.toNat < 128) :
    String.utf8EncodeChar c = [UInt8.ofNat c.toNat] := if_pos (Nat.le_of_lt_succ h)

/-- The last of several bytes that stand for one character is that of no digit. -/
theorem exists_mem_utf8EncodeChar {c : Char} (h : 128 ≤ c.toNat) :
    ∃ u ∈ String.utf8EncodeChar c, Hexadecimal.value? (Char.ofNat u.toNat) = none := by
  have hnone : ∀ k < 64, Hexadecimal.value? (Char.ofNat (k + 128)) = none := by decide +kernel
  have hlast : UInt8.ofNat (c.toNat % 64 + 128) ∈ String.utf8EncodeChar c := by
    have hc : ¬ c.val.toNat ≤ 127 := Nat.not_le_of_lt h
    simp only [String.utf8EncodeChar, hc, if_false]
    split
    · exact List.mem_of_getLast? rfl
    · split
      · exact List.mem_of_getLast? rfl
      · exact List.mem_of_getLast? rfl
  refine ⟨_, hlast, ?_⟩
  have hlt : c.toNat % 64 < 64 := Nat.mod_lt _ (by decide)
  rw [UInt8.toNat_ofNat_of_lt' (Nat.lt_trans (Nat.add_lt_add_right hlt 128) (by decide))]
  exact hnone _ hlt

/-- Characters outside ASCII are no digits, and neither are the bytes that stand for them. -/
theorem pairs?_flatMap_utf8EncodeChar (text : List Char) :
    Hexadecimal.pairs? ((text.flatMap String.utf8EncodeChar).map fun u => Char.ofNat u.toNat) =
      Hexadecimal.pairs? text := by
  by_cases h : ∀ c ∈ text, c.toNat < 128
  · have hsame : (text.flatMap String.utf8EncodeChar).map (fun u => Char.ofNat u.toNat) = text := by
      have hone : ∀ c ∈ text,
          (String.utf8EncodeChar c).map (fun u => Char.ofNat u.toNat) = [c] := by
        intro c hc
        have hlt := h c hc
        rw [utf8EncodeChar_of_lt hlt, List.map_singleton,
          UInt8.toNat_ofNat_of_lt' (Nat.lt_trans hlt (by decide)), Char.ofNat_toNat]
      rw [List.map_flatMap, List.flatMap_congr hone, List.flatMap_singleton']
    rw [hsame]
  · obtain ⟨c, hc, hlt⟩ : ∃ c ∈ text, 128 ≤ c.toNat := by simpa using h
    obtain ⟨u, hu, hnone⟩ := exists_mem_utf8EncodeChar hlt
    have hvalue : Hexadecimal.value? c = none := by
      refine Option.eq_none_iff_forall_ne_some.2 fun d hd => ?_
      exact absurd (toNat_lt_of_value? hd) (Nat.not_lt.2 hlt)
    have hmem : Char.ofNat u.toNat ∈
        (text.flatMap String.utf8EncodeChar).map fun u => Char.ofNat u.toNat :=
      List.mem_map.2 ⟨u, List.mem_flatMap.2 ⟨c, hc, hu⟩, rfl⟩
    rw [Hexadecimal.pairs?_eq_none_of_mem hc hvalue, Hexadecimal.pairs?_eq_none_of_mem hmem hnone]

theorem readPairs_eq_ok_iff :
    readPairs text = .ok bytes ↔ Hexadecimal.pairs? text = some bytes := by
  rw [← pairs?_flatMap_utf8EncodeChar, ← toList_toUTF8_ofList, ← @readPairsFrom_eq_ok_iff _ 0]
  unfold readPairs
  dsimp only
  split
  · next hodd =>
    refine ⟨nofun, fun h => ?_⟩
    have hlen := (Hexadecimal.digits_of_pairs? (readPairsFrom_eq_ok_iff.1 h)).2
    rw [List.length_map] at hlen
    omega
  · exact Iff.rfl

end Units

section Reading

variable {core text : List Char} {bytes : Bytes}

/-- What stands around a text besides blanks is nothing. -/
theorem IsPadded.filter_eq (h : IsPadded core text) :
    text.filter (fun c => !isBlank c) = core.filter fun c => !isBlank c := by
  obtain ⟨before, after, rfl, hblank⟩ := h
  have hbefore := filter_eq_nil_of_isBlank fun c hc => hblank c (List.mem_append_left after hc)
  have hafter := filter_eq_nil_of_isBlank fun c hc => hblank c (List.mem_append_right before hc)
  rw [List.filter_append, List.filter_append, hbefore, hafter, List.nil_append, List.append_nil]

theorem writesBytes_congr {other : List Char}
    (h : text.filter (fun c => !isBlank c) = other.filter fun c => !isBlank c) :
    WritesBytes text bytes ↔ WritesBytes other bytes := by
  rw [writesBytes_iff_pairs?, writesBytes_iff_pairs?, h]

/-- A prefix is no part of what is written in digits. -/
theorem not_writesBytes_of_afterHexPrefix? {rest : List Char}
    (h : afterHexPrefix? text = some rest) : ¬ WritesBytes text bytes := by
  obtain ⟨x, hx, rfl⟩ := afterHexPrefix?_eq_some_iff.1 h
  have hvalue : Hexadecimal.value? x = none := by
    rcases hx with rfl | rfl
    · rfl
    · rfl
  have hmem : x ∈ ('0' :: x :: rest).filter fun c => !isBlank c :=
    List.mem_filter.2 ⟨by simp, by simp [isBlank_eq_false_of_mark hx]⟩
  rw [writesBytes_iff_pairs?, Hexadecimal.pairs?_eq_none_of_mem hmem hvalue]
  nofun

theorem hexBytes_eq_ok_iff_trim (text : String) :
    hexBytes text = .ok bytes ↔
      WritesBytes ((afterHexPrefix? (trim text.toList)).getD (trim text.toList)) bytes := by
  rw [writesBytes_iff_pairs?, ← readPairs_eq_ok_iff]
  unfold hexBytes
  dsimp only
  split
  · next read hread => rw [hread, Except.ok.injEq, Except.ok.injEq]
  · next fault hfault =>
    rw [hfault]
    exact ⟨nofun, nofun⟩

theorem hexBytes_eq_ok_iff (text : String) :
    hexBytes text = .ok bytes ↔ ∃ core, IsPadded core text.toList ∧
      (WritesBytes core bytes ∨
        ∃ x rest, (x = 'x' ∨ x = 'X') ∧ core = '0' :: x :: rest ∧ WritesBytes rest bytes) := by
  rw [hexBytes_eq_ok_iff_trim]
  have hpadded := isPadded_trim text.toList
  constructor
  · intro h
    refine ⟨_, hpadded, ?_⟩
    cases hmark : afterHexPrefix? (trim text.toList) with
    | none =>
      rw [hmark] at h
      exact .inl h
    | some rest =>
      obtain ⟨x, hx, htrim⟩ := afterHexPrefix?_eq_some_iff.1 hmark
      rw [hmark] at h
      exact .inr ⟨x, rest, hx, htrim, h⟩
  · rintro ⟨core, hcore, h | ⟨x, rest, hx, rfl, h⟩⟩
    · have hdigits : WritesBytes (trim text.toList) bytes :=
        (writesBytes_congr (hpadded.filter_eq.symm.trans hcore.filter_eq)).2 h
      cases hmark : afterHexPrefix? (trim text.toList) with
      | none => exact hdigits
      | some rest => exact absurd hdigits (not_writesBytes_of_afterHexPrefix? hmark)
    · -- Blanks behind the last digit may have been trimmed, so that less than `rest` is left.
      have hletter := isBlank_eq_false_of_mark hx
      obtain ⟨before, after, htext, hblank⟩ := id hcore
      have hbefore : ∀ c ∈ before, isBlank c = true := fun c hc =>
        hblank c (List.mem_append_left after hc)
      obtain ⟨kept, hkept⟩ :=
        exists_trim_eq_cons_cons hbefore (rfl : isBlank '0' = false) hletter (rest ++ after)
      have htrim : trim text.toList = '0' :: x :: kept := by
        rw [htext, List.append_assoc]
        exact hkept
      have hsame := hpadded.filter_eq.symm.trans hcore.filter_eq
      have hzero : isBlank '0' = false := rfl
      simp only [htrim, List.filter_cons, hzero, hletter, Bool.not_false, if_true,
        List.cons.injEq, true_and] at hsame
      rw [htrim, afterHexPrefix?_eq_some_iff.2 ⟨x, hx, rfl⟩]
      exact (writesBytes_congr hsame).2 h

end Reading

/-- The digits of bytes, as these stand in notes, write the bytes. -/
theorem writesBytes_digits (bytes : Bytes) :
    WritesBytes (bytes.flatMap fun b => Hexadecimal.digits 2 b.toNat) bytes := by
  have hcapital : ∀ d < 16, IsDigit 16 (Hexadecimal.capital d) d := by decide
  have hnone : ∀ c ∈ ([] : List Char), isBlank c = true := nofun
  induction bytes with
  | nil => exact .nil hnone
  | cons b bytes ih =>
    have hb := b.toNat_lt
    have hhigh : b.toNat / 16 % 16 = b.toNat / 16 := Nat.mod_eq_of_lt (by omega)
    have hdigits : Hexadecimal.digits 2 b.toNat =
        [Hexadecimal.capital (b.toNat / 16), Hexadecimal.capital (b.toNat % 16)] := by
      rw [← hhigh]
      rfl
    rw [List.flatMap_cons, hdigits]
    exact .cons hnone (hcapital _ (by omega)) hnone (hcapital _ (by omega)) ih

/-- Bytes are read exactly from the texts that write two digits for each, letters of either case,
with blanks anywhere around the digits, and with `0x` or `0X` once in front of all of them or not.
Only blanks may stand in front of the prefix, and none within it. Any other text is refused as a
whole. The digits of bytes, as these stand in notes, are read as the bytes. -/
theorem hexBytes_reads :
    (∀ text bytes, hexBytes text = .ok bytes ↔ ∃ core, IsPadded core text.toList ∧
      (WritesBytes core bytes ∨
        ∃ x rest, (x = 'x' ∨ x = 'X') ∧ core = '0' :: x :: rest ∧ WritesBytes rest bytes)) ∧
    (∀ text, (∃ bytes, hexBytes text = .ok bytes) ∨
      ∃ fault, hexBytes text = .error ⟨text, fault⟩) ∧
    ∀ bytes : Bytes, hexBytes
      (String.ofList (bytes.flatMap fun b => Hexadecimal.digits 2 b.toNat)) = .ok bytes := by
  refine ⟨fun text bytes => hexBytes_eq_ok_iff text, ?_, ?_⟩
  · intro text
    unfold hexBytes
    dsimp only
    split
    · exact .inl ⟨_, rfl⟩
    · exact .inr ⟨_, rfl⟩
  · intro bytes
    rw [hexBytes_eq_ok_iff, String.toList_ofList]
    exact ⟨_, isPadded_self _, .inl (writesBytes_digits bytes)⟩

/-- Blanks may stand behind the prefix. A second prefix, or one in two parts, is refused. -/
example :
    ["\t0X 4a\u30004F", "0x0x4A", "0 x4A", "4A4", "4\u00C4"].map (fun t => (hexBytes t).toOption) =
      [some [0x4A, 0x4F], none, none, none, none] := by decide +kernel

end Text

end Shdlc
