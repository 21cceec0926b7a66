import Shdlc.Image.Record
import Shdlc.Proofs.Text.HexBytes
/-!
How records are written in a file. Main statement: `records_of_lists`, reading a file gives the
records that are written in it.
-/
namespace Shdlc

namespace Image

namespace Record

def type : Record → UInt8
  | .data _ _ => 0
  | .endOfFile => 1
  | .extendedSegment _ => 2
  | .startSegment _ _ => 3
  | .extendedLinear _ => 4
  | .startLinear _ => 5

/-- The offset in a record, which only counts where there are data. -/
def offset : Record → UInt16
  | .data offset _ => offset
  | _ => 0

def payload : Record → Bytes
  | .data _ bytes => bytes
  | .endOfFile => []
  | .extendedSegment base | .extendedLinear base => Bytes.ofUInt16 base
  | .startSegment codeSegment instruction =>
    Bytes.ofUInt16 codeSegment ++ Bytes.ofUInt16 instruction
  | .startLinear address => Bytes.ofUInt32 address

/-- The bytes of a record in front of its checksum. -/
def body (r : Record) : Bytes :=
  UInt8.ofNat r.payload.length :: (Bytes.ofUInt16 r.offset ++ r.type :: r.payload)

/-- Whether the length of the payload can be told in a byte. -/
def Fits (r : Record) : Prop := r.payload.length ≤ 0xFF

instance (r : Record) : Decidable r.Fits := inferInstanceAs (Decidable (r.payload.length ≤ 0xFF))

/-- Whether a line is a record, in digits of either case. -/
def Spells (line : List Char) (r : Record) : Prop :=
  ∃ digits, line = ':' :: digits ∧ Hexadecimal.pairs? digits = some (r.body ++ [checksum r.body])

theorem ofParts_payload (r : Record) : ofParts r.type r.offset r.payload = .ok r := by
  cases r with
  | data offset bytes => rfl
  | endOfFile => rfl
  | extendedSegment base =>
    exact congrArg (Except.ok ∘ Record.extendedSegment) (Bytes.toUInt16_bigEndian base)
  | startSegment codeSegment instruction =>
    change Except.ok (startSegment (Bytes.bigEndian (Bytes.ofUInt16 codeSegment)).toUInt16
      (Bytes.bigEndian (Bytes.ofUInt16 instruction)).toUInt16) = _
    rw [Bytes.toUInt16_bigEndian, Bytes.toUInt16_bigEndian]
  | extendedLinear base =>
    exact congrArg (Except.ok ∘ Record.extendedLinear) (Bytes.toUInt16_bigEndian base)
  | startLinear address =>
    exact congrArg (Except.ok ∘ Record.startLinear) (Bytes.toUInt32_bigEndian address)

theorem ofBytes_body {r : Record} (h : r.Fits) : ofBytes (r.body ++ [checksum r.body]) = .ok r := by
  have hlen : (UInt8.ofNat r.payload.length).toNat = r.payload.length :=
    UInt8.toNat_ofNat_of_lt' (Nat.lt_succ_of_le h)
  simp only [ofBytes, List.dropLast_concat, List.getLastD_concat, ne_eq, not_true_eq_false,
    if_false]
  have hoffset : (Bytes.bigEndian [(r.offset >>> 8).toUInt8, r.offset.toUInt8]).toUInt16 =
      r.offset := Bytes.toUInt16_bigEndian r.offset
  simp only [body, Bytes.ofUInt16, List.cons_append, List.nil_append, hlen, not_true_eq_false,
    if_false, hoffset]
  exact ofParts_payload r

theorem length_body (r : Record) : r.body.length = r.payload.length + 4 := by
  simp only [body, Bytes.ofUInt16, List.length_cons, List.length_append, List.length_nil]
  omega

/-- A line is read as the record that it is. -/
theorem ofLine_of_spells {line : List Char} {r : Record} (h : Spells line r) (hf : r.Fits) :
    ofLine line = .ok r := by
  obtain ⟨digits, rfl, hp⟩ := h
  obtain ⟨hall, hlen⟩ := Hexadecimal.digits_of_pairs? hp
  rw [List.length_append, length_body, List.length_singleton] at hlen
  have hfew : ¬ digits.length < fewestDigits := by
    rw [hlen, fewestDigits]
    omega
  have hmost : ¬ mostDigits < digits.length := by
    have hle : r.payload.length ≤ 0xFF := hf
    rw [hlen, mostDigits]
    omega
  simp only [ofLine, hall, hfew, hmost, if_false, hp]
  exact ofBytes_body hf

end Record

/-- Whether lines are the lines of a file of records: each is a record or empty, up to one that ends
the file. What stands behind that one does not matter. -/
inductive Lists : List (List Char) → List Record → Prop
  | ended {line : List Char} {rest : List (List Char)} (spells : Record.Spells line .endOfFile) :
    Lists (line :: rest) []
  | empty {rest : List (List Char)} {records : List Record} (lists : Lists rest records) :
    Lists ([] :: rest) records
  | record {line : List Char} {rest : List (List Char)} {r : Record} {records : List Record}
    (spells : r.Spells line) (fits : r.Fits) (goes_on : r ≠ .endOfFile)
    (lists : Lists rest records) : Lists (line :: rest) (r :: records)

theorem records_cons_of_spells {line : List Char} {rest : List (List Char)} {r : Record}
    (h : Record.Spells line r) (hf : r.Fits) :
    records (line :: rest) =
      if r = .endOfFile then .ok [] else (r :: ·) <$> records rest := by
  have hline := Record.ofLine_of_spells h hf
  obtain ⟨digits, rfl, -⟩ := h
  simp only [records, List.isEmpty_cons, Bool.false_eq_true, if_false, hline]
  cases r <;> rfl

/-- The records that are listed in lines are read from them. -/
theorem records_of_lists {lines : List (List Char)} {rs : List Record} (h : Lists lines rs) :
    records lines = .ok rs := by
  induction h with
  | ended spells =>
    rw [records_cons_of_spells spells (Nat.zero_le _), if_pos rfl]
  | empty lists ih => exact ih
  | record spells fits goes_on lists ih =>
    rw [records_cons_of_spells spells fits, if_neg goes_on, ih]
    rfl

end Image

end Shdlc
