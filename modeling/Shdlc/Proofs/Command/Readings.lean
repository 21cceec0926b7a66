import Mathlib.Data.List.DropRight
import Shdlc.Command.Inquiry
import Shdlc.Proofs.Bus.Execution
/-!
What answers are read as. Main statement: `checkLength_agrees`, a command understands the answers of
the lengths that it allows, and what it makes of an answer tells which answer it was.
-/
namespace Shdlc

namespace Bytes

theorem foldl_bigEndian_inj {xs ys : Bytes} (hlen : xs.length = ys.length) {m n : Nat}
    (h : xs.foldl (fun n b => 256 * n + b.toNat) m = ys.foldl (fun n b => 256 * n + b.toNat) n) :
    m = n ∧ xs = ys := by
  induction xs generalizing ys m n with
  | nil =>
    obtain rfl := List.length_eq_zero_iff.1 hlen.symm
    exact ⟨h, rfl⟩
  | cons x xs ih =>
    cases ys with
    | nil => cases hlen
    | cons y ys =>
      obtain ⟨hvalue, rfl⟩ := ih (Nat.succ.inj hlen) h
      dsimp only at hvalue
      have hx := x.toNat_lt
      have hy := y.toNat_lt
      have hdigit : x.toNat = y.toNat := by omega
      refine ⟨by omega, ?_⟩
      rw [UInt8.toNat_inj.1 hdigit]

/-- Bytes are told by how many there are and by the number that they make. -/
theorem bigEndian_inj {xs ys : Bytes} (hlen : xs.length = ys.length)
    (h : bigEndian xs = bigEndian ys) : xs = ys := (foldl_bigEndian_inj hlen h).2

theorem ofUInt16_bigEndian (a b : UInt8) : ofUInt16 (bigEndian [a, b]).toUInt16 = [a, b] := by
  have hlt : bigEndian [a, b] < UInt16.size := by
    have ha := a.toNat_lt
    have hb := b.toNat_lt
    simp only [bigEndian, List.foldl_cons, List.foldl_nil, UInt16.size]
    omega
  refine bigEndian_inj rfl ?_
  rw [bigEndian_ofUInt16]
  exact UInt16.toNat_ofNat_of_lt' hlt

theorem ofUInt32_bigEndian (a b c d : UInt8) :
    ofUInt32 (bigEndian [a, b, c, d]).toUInt32 = [a, b, c, d] := by
  have hlt : bigEndian [a, b, c, d] < UInt32.size := by
    have ha := a.toNat_lt
    have hb := b.toNat_lt
    have hc := c.toNat_lt
    have hd := d.toNat_lt
    simp only [bigEndian, List.foldl_cons, List.foldl_nil, UInt32.size]
    omega
  refine bigEndian_inj rfl ?_
  rw [bigEndian_ofUInt32]
  exact UInt32.toNat_ofNat_of_lt' hlt

end Bytes

namespace Answer

section Values

variable {α : Type} {interpret : Bytes → Except Error α} {write : α → Bytes} {length : Nat}

/-- A way of reading answers of one length that is the inverse of a way of writing values. -/
structure Inverts (interpret : Bytes → Except Error α) (write : α → Bytes) (length : Nat) :
    Prop where
  eq_ok_iff : ∀ data a, interpret data = .ok a ↔ data = write a
  length_write : ∀ a, (write a).length = length
  exists_ok : ∀ data, data.length = length → ∃ a, interpret data = .ok a

theorem Inverts.exists_ok_iff (h : Inverts interpret write length) (data : Bytes) :
    (∃ a, interpret data = .ok a) ↔ data.length = length := by
  constructor
  · rintro ⟨a, ha⟩
    rw [(h.eq_ok_iff data a).1 ha, h.length_write]
  · exact h.exists_ok data

/-- Different answers are read as different values. -/
theorem Inverts.eq_iff (h : Inverts interpret write length) {data data' : Bytes}
    (hlen : data.length = length) : interpret data = interpret data' ↔ data = data' := by
  constructor
  · intro heq
    obtain ⟨a, ha⟩ := h.exists_ok data hlen
    rw [(h.eq_ok_iff data a).1 ha, (h.eq_ok_iff data' a).1 (heq ▸ ha)]
  · exact congrArg interpret

theorem inverts_byte : Inverts byte (fun b => [b]) 1 where
  eq_ok_iff data b := by
    constructor
    · intro h
      unfold byte at h
      split at h
      · cases h
        rfl
      · cases h
    · rintro rfl
      rfl
  length_write _ := rfl
  exists_ok
    | [b], _ => ⟨b, rfl⟩

theorem inverts_word16 : Inverts word16 Bytes.ofUInt16 2 where
  eq_ok_iff data n := by
    constructor
    · intro h
      unfold word16 at h
      split at h
      · next a b =>
        cases h
        exact (Bytes.ofUInt16_bigEndian a b).symm
      · cases h
    · rintro rfl
      exact congrArg Except.ok (Bytes.toUInt16_bigEndian n)
  length_write _ := rfl
  exists_ok
    | [_, _], _ => ⟨_, rfl⟩

theorem inverts_word32 : Inverts word32 Bytes.ofUInt32 4 where
  eq_ok_iff data n := by
    constructor
    · intro h
      unfold word32 at h
      split at h
      · next a b c d =>
        cases h
        exact (Bytes.ofUInt32_bigEndian a b c d).symm
      · cases h
    · rintro rfl
      exact congrArg Except.ok (Bytes.toUInt32_bigEndian n)
  length_write _ := rfl
  exists_ok
    | [_, _, _, _], _ => ⟨_, rfl⟩

theorem inverts_errorState :
    Inverts errorState (fun e => Bytes.ofUInt32 e.state ++ [e.lastError]) 5 where
  eq_ok_iff data e := by
    constructor
    · intro h
      unfold errorState at h
      split at h
      · next a b c d code =>
        cases h
        rw [Bytes.ofUInt32_bigEndian a b c d]
        rfl
      · cases h
    · rintro rfl
      exact congrArg (fun state => Except.ok (ErrorState.mk state e.lastError))
        (Bytes.toUInt32_bigEndian e.state)
  length_write _ := rfl
  exists_ok
    | [_, _, _, _, _], _ => ⟨_, rfl⟩

end Values

section Versions

theorem exists_version_iff (data : Bytes) : (∃ v, version data = .ok v) ↔ data.length = 7 := by
  constructor
  · rintro ⟨v, h⟩
    unfold version at h
    split at h
    · next w hw =>
      unfold Version.ofBytes? at hw
      split at hw
      · rfl
      · cases hw
    · cases h
  · intro h
    match data, h with
    | [_, _, _, _, _, _, _], _ => exact ⟨_, rfl⟩

/-- Whether two answers about versions differ at most in the byte that says whether the firmware is
a debug build, and both say that it is. -/
def AlikeButDebug (data data' : Bytes) : Prop :=
  ∃ major minor debug debug' rest, data = major :: minor :: debug :: rest ∧
    data' = major :: minor :: debug' :: rest ∧ debug ≠ 0 ∧ debug' ≠ 0

theorem version_eq_iff {data data' : Bytes} (h : data.length = 7) (h' : data'.length = 7) :
    version data = version data' ↔ data = data' ∨ AlikeButDebug data data' := by
  match data, h, data', h' with
  | [a, b, x, c, d, e, f], _, [a', b', x', c', d', e', f'], _ =>
    have hread : version [a, b, x, c, d, e, f] = version [a', b', x', c', d', e', f'] ↔
        (⟨⟨a, b, x != 0⟩, ⟨c, d⟩, ⟨e, f⟩⟩ : Version) =
          ⟨⟨a', b', x' != 0⟩, ⟨c', d'⟩, ⟨e', f'⟩⟩ := ⟨Except.ok.inj, congrArg Except.ok⟩
    rw [hread]
    simp only [Version.mk.injEq, FirmwareVersion.mk.injEq, HardwareVersion.mk.injEq,
      ProtocolVersion.mk.injEq]
    constructor
    · rintro ⟨⟨rfl, rfl, hx⟩, ⟨rfl, rfl⟩, rfl, rfl⟩
      have hdebug : x ≠ 0 ↔ x' ≠ 0 := by simpa only [bne_iff_ne] using Bool.eq_iff_iff.1 hx
      by_cases hzero : x = 0
      · obtain rfl : x' = 0 := Decidable.not_not.1 fun hne => hdebug.2 hne hzero
        rw [hzero]
        exact .inl rfl
      · exact .inr ⟨a, b, x, x', _, rfl, rfl, hzero, hdebug.1 hzero⟩
    · rintro (heq | ⟨major, minor, debug, debug', rest, ⟨⟩, ⟨⟩, hne, hne'⟩)
      · cases heq
        simp only [and_self]
      · rw [bne_iff_ne.2 hne, bne_iff_ne.2 hne']
        simp only [and_self]

end Versions

section Texts

theorem rdropWhile_append_nuls {cs : List Char} (h : cs.getLast? ≠ some '\x00') (nuls : Nat) :
    (cs ++ List.replicate nuls '\x00').rdropWhile (· == '\x00') = cs := by
  induction nuls with
  | zero =>
    rw [List.replicate_zero, List.append_nil, List.rdropWhile_eq_self_iff]
    intro hne hlast
    rw [beq_iff_eq, List.getLast_eq_iff_getLast?_eq_some hne] at hlast
    exact h hlast
  | succ k ih =>
    rw [List.replicate_succ', ← List.append_assoc,
      List.rdropWhile_concat_pos (· == '\x00') _ _ rfl, ih]

theorem withoutNuls_eq_iff {t s : String} :
    withoutNuls t = s ↔ s.toList.getLast? ≠ some '\x00' ∧
      ∃ nuls, t.toList = s.toList ++ List.replicate nuls '\x00' := by
  have hdrop : withoutNuls t = String.ofList (t.toList.rdropWhile (· == '\x00')) := rfl
  rw [hdrop]
  constructor
  · rintro rfl
    rw [String.toList_ofList]
    refine ⟨?_, (t.toList.rtakeWhile (· == '\x00')).length, ?_⟩
    · intro hlast
      have hne : t.toList.rdropWhile (· == '\x00') ≠ [] := by
        rintro hnil
        rw [hnil] at hlast
        cases hlast
      rw [← List.getLast_eq_iff_getLast?_eq_some hne] at hlast
      exact List.rdropWhile_last_not _ _ hne (beq_iff_eq.2 hlast)
    · have hnuls : t.toList.rtakeWhile (· == '\x00') =
          List.replicate (t.toList.rtakeWhile (· == '\x00')).length '\x00' := by
        refine List.eq_replicate_iff.2 ⟨rfl, fun c hc => ?_⟩
        exact beq_iff_eq.1 (List.mem_rtakeWhile_imp (p := (· == '\x00')) hc)
      rw [← hnuls, List.rdropWhile_append_rtakeWhile]
  · rintro ⟨hlast, nuls, ht⟩
    rw [ht, rdropWhile_append_nuls hlast, String.ofList_toList]

/-- A text as a device gives it, with NULs behind it. -/
def ofText (s : String) (nuls : Nat) : Bytes := s.toUTF8.data.toList ++ List.replicate nuls 0

theorem ofText_eq (s : String) (nuls : Nat) :
    ofText s nuls = (s ++ String.ofList (List.replicate nuls '\x00')).toUTF8.data.toList := by
  have hnuls : (List.replicate nuls '\x00').utf8Encode.data.toList = List.replicate nuls 0 := by
    induction nuls with
    | zero => rfl
    | succ k ih =>
      rw [List.replicate_succ, List.utf8Encode_cons, ByteArray.data_append, Array.toList_append, ih]
      rfl
  simp only [ofText, String.toUTF8_eq_toByteArray, String.toByteArray_append,
    String.toByteArray_ofList, ByteArray.data_append, Array.toList_append, hnuls]

theorem exists_text_iff (data : Bytes) :
    (∃ s, text data = .ok s) ↔ (ByteArray.mk data.toArray).IsValidUTF8 := by
  unfold text String.fromUTF8?
  by_cases h : (ByteArray.mk data.toArray).IsValidUTF8
  · simp [h]
  · simp [h]

theorem fromUTF8?_eq_some_iff {data : Bytes} {t : String} :
    String.fromUTF8? ⟨data.toArray⟩ = some t ↔ data = t.toUTF8.data.toList := by
  constructor
  · intro h
    unfold String.fromUTF8? at h
    split at h
    · cases h
      rfl
    · cases h
  · rintro rfl
    rw [Array.toArray_toList, String.fromUTF8?, String.toUTF8_eq_toByteArray,
      dif_pos t.isValidUTF8]
    rfl

theorem text_eq_ok_iff (data : Bytes) (s : String) :
    text data = .ok s ↔ s.toList.getLast? ≠ some '\x00' ∧ ∃ nuls, data = ofText s nuls := by
  constructor
  · intro h
    unfold text at h
    split at h
    · next t ht =>
      obtain ⟨hlast, nuls, hnuls⟩ := withoutNuls_eq_iff.1 (Except.ok.inj h)
      have hs : t = s ++ String.ofList (List.replicate nuls '\x00') := by
        rw [← String.toList_inj, String.toList_append, String.toList_ofList, hnuls]
      rw [fromUTF8?_eq_some_iff, hs, ← ofText_eq] at ht
      exact ⟨hlast, nuls, ht⟩
    · cases h
  · rintro ⟨hlast, nuls, hdata⟩
    rw [ofText_eq, ← fromUTF8?_eq_some_iff] at hdata
    rw [text, hdata]
    refine congrArg Except.ok (withoutNuls_eq_iff.2 ⟨hlast, nuls, ?_⟩)
    rw [String.toList_append, String.toList_ofList]

end Texts

end Answer

namespace Command

variable {α : Type} {c : Command α} {length : Nat}

/-- Whether a command understands the answers of the lengths that it allows and no others, and reads
those as the same that are alike. -/
structure Agrees (c : Command α) (alike : Bytes → Bytes → Prop) : Prop where
  exists_ok_iff : ∀ data, (∃ a, c.interpret data = .ok a) ↔ c.checkLength data = .ok ()
  eq_iff : ∀ data data', c.checkLength data = .ok () → c.checkLength data' = .ok () →
    (c.interpret data = c.interpret data' ↔ alike data data')

theorem checkLength_eq_ok_iff_length (hleast : c.least = length) (hmost : c.most = length)
    (data : Bytes) : c.checkLength data = .ok () ↔ data.length = length := by
  rw [checkLength_eq_ok_iff]
  omega

theorem agrees_of_inverts {write : α → Bytes} (h : Answer.Inverts c.interpret write length)
    (hleast : c.least = length) (hmost : c.most = length) : c.Agrees (· = ·) where
  exists_ok_iff data := by
    rw [h.exists_ok_iff, checkLength_eq_ok_iff_length hleast hmost]
  eq_iff data data' hd _ := by
    exact h.eq_iff ((checkLength_eq_ok_iff_length hleast hmost data).1 hd)

theorem Agrees.mono {alike alike' : Bytes → Bytes → Prop} (h : c.Agrees alike)
    (ha : ∀ data data', alike data data' ↔ alike' data data') : c.Agrees alike' :=
  ⟨h.exists_ok_iff, fun data data' hd hd' => (h.eq_iff data data' hd hd').trans (ha data data')⟩

end Command

namespace Standard

/-- What the answer to a command holds. -/
inductive Content where
  | nothing
  | text
  | value
deriving DecidableEq

def content : Standard → Content
  | .getProductType | .getProductName | .getArticleCode | .getSerialNumber => .text
  | .getSlaveAddress | .getBaudrate | .getSystemUpTime | .getReplyDelay | .getProductSubtype
  | .getVersion | .getErrorState _ => .value
  | .setSlaveAddress _ | .setBaudrate _ | .setReplyDelay _ | .factoryReset | .deviceReset
  | .enterBootloader | .updateStart | .updateData _ | .updateStop _ => .nothing

variable {s : Standard}

theorem agrees_getVersion : Standard.getVersion.command.Agrees
    fun data data' => data = data' ∨ Answer.AlikeButDebug data data' where
  exists_ok_iff data := by
    rw [Command.checkLength_eq_ok_iff_length rfl rfl]
    exact Answer.exists_version_iff data
  eq_iff data data' hd hd' := by
    rw [Command.checkLength_eq_ok_iff_length rfl rfl] at hd hd'
    exact Answer.version_eq_iff hd hd'

/-- Only answers about versions can be read as the same and differ. -/
theorem agrees_of_value (h : s.content = .value) : s.command.Agrees
    fun data data' => data = data' ∨ s = .getVersion ∧ Answer.AlikeButDebug data data' := by
  have hplain : s ≠ .getVersion → s.command.Agrees (· = ·) → s.command.Agrees
      fun data data' => data = data' ∨ s = .getVersion ∧ Answer.AlikeButDebug data data' :=
    fun hs ha => ha.mono fun _ _ => (or_iff_left fun hv => hs hv.1).symm
  cases s with
  | getSlaveAddress | getProductSubtype =>
    exact hplain nofun (Command.agrees_of_inverts Answer.inverts_byte rfl rfl)
  | getBaudrate | getSystemUpTime =>
    exact hplain nofun (Command.agrees_of_inverts Answer.inverts_word32 rfl rfl)
  | getReplyDelay => exact hplain nofun (Command.agrees_of_inverts Answer.inverts_word16 rfl rfl)
  | getErrorState clear =>
    exact hplain nofun (Command.agrees_of_inverts Answer.inverts_errorState rfl rfl)
  | getVersion => exact agrees_getVersion.mono fun _ _ => by simp
  | _ => cases h

theorem exists_ok_of_nothing (h : s.content = .nothing) (data : Bytes) :
    ∃ a, s.command.interpret data = .ok a := by
  cases s with
  | setSlaveAddress | setBaudrate | setReplyDelay | factoryReset | deviceReset | enterBootloader
  | updateStart | updateData | updateStop => exact ⟨(), rfl⟩
  | _ => cases h

theorem exists_ok_iff_of_text (h : s.content = .text) (data : Bytes) :
    (∃ a, s.command.interpret data = .ok a) ↔ (ByteArray.mk data.toArray).IsValidUTF8 := by
  cases s with
  | getProductType | getProductName | getArticleCode | getSerialNumber =>
    exact Answer.exists_text_iff data
  | _ => cases h

theorem value_eq_text_iff (h : s.content = .text) (data : Bytes) (text : String) :
    (∃ a, s.command.interpret data = .ok a ∧ s.value a = .text text) ↔
      Answer.text data = .ok text := by
  cases s with
  | getProductType | getProductName | getArticleCode | getSerialNumber =>
    constructor
    · rintro ⟨a, ha, ⟨⟩⟩
      exact ha
    · intro ht
      exact ⟨text, ht, rfl⟩
  | _ => cases h

/-- Every answer of an allowed length is understood, unless it should be a text and is not in UTF-8.
A value is read from the answers of the allowed length only, and tells which answer it was, except
that a debug build may be said to be one by any byte but zero. As a text is read the one that the
answer gives, without the NULs at its end but with all others. -/
theorem interpret_agrees (s : Standard) :
    (∀ data, s.command.checkLength data = .ok () →
      ((∃ a, s.command.interpret data = .ok a) ↔
        (s.content = .text → (ByteArray.mk data.toArray).IsValidUTF8))) ∧
    (s.content = .value →
      (∀ data, (∃ a, s.command.interpret data = .ok a) → s.command.checkLength data = .ok ()) ∧
      ∀ data data', s.command.checkLength data = .ok () → s.command.checkLength data' = .ok () →
        (s.command.interpret data = s.command.interpret data' ↔
          data = data' ∨ s = .getVersion ∧ Answer.AlikeButDebug data data')) ∧
    (s.content = .text → ∀ data text,
      (∃ a, s.command.interpret data = .ok a ∧ s.value a = .text text) ↔
        text.toList.getLast? ≠ some '\x00' ∧
          ∃ nuls, data = text.toUTF8.data.toList ++ List.replicate nuls 0) := by
  refine ⟨fun data hlength => ?_, fun hvalue => ?_, fun htext data text => ?_⟩
  · cases hc : s.content with
    | nothing => exact iff_of_true (exists_ok_of_nothing hc data) nofun
    | text =>
      rw [exists_ok_iff_of_text hc]
      exact ⟨fun hvalid _ => hvalid, fun hvalid => hvalid rfl⟩
    | value => exact iff_of_true (((agrees_of_value hc).exists_ok_iff data).2 hlength) nofun
  · have hagrees := agrees_of_value hvalue
    exact ⟨fun data => (hagrees.exists_ok_iff data).1, hagrees.eq_iff⟩
  · rw [value_eq_text_iff htext]
    exact Answer.text_eq_ok_iff data text

theorem interpret_agrees_name_and_version :
    (∃ a, Standard.getProductName.command.interpret [0x61, 0, 0x62, 0, 0, 0] = .ok a ∧
      Standard.getProductName.value a = .text "a\x00b") ∧
    (∃ a, Standard.getVersion.command.interpret [1, 2, 9, 3, 4, 5, 6] = .ok a) ∧
    Standard.getVersion.command.interpret [1, 2, 9, 3, 4, 5, 6] =
      Standard.getVersion.command.interpret [1, 2, 1, 3, 4, 5, 6] ∧
    Standard.getBaudrate.command.interpret [0, 0, 1, 0] ≠
      Standard.getBaudrate.command.interpret [0, 1, 0, 0] := by
  obtain ⟨-, -, htext⟩ := interpret_agrees .getProductName
  obtain ⟨hlength, hversion, -⟩ := interpret_agrees .getVersion
  obtain ⟨-, hvalue, -⟩ := interpret_agrees .getBaudrate
  refine ⟨?_, ?_, ?_, ?_⟩
  · exact (htext rfl _ _).2 ⟨by decide, 3, by decide⟩
  · exact (hlength _ rfl).2 nofun
  · refine ((hversion rfl).2 _ _ rfl rfl).2 (.inr ⟨rfl, 1, 2, 9, 1, [3, 4, 5, 6], rfl, rfl, ?_⟩)
    decide
  · intro hsame
    rcases ((hvalue rfl).2 _ _ rfl rfl).1 hsame with hsame | ⟨hcommand, -⟩
    · exact absurd hsame (by decide)
    · cases hcommand

end Standard

end Shdlc
