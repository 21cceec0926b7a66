import Shdlc.Bytes
/-! Numbers and bytes in base 16. -/
namespace Shdlc.Hexadecimal

/-- The capital digit of a value below 16. -/
def capital (value : Nat) : Char :=
  if value < 10 then Char.ofNat (48 + value) else Char.ofNat (55 + value)

/-- The small digit of a value below 16. -/
def small (value : Nat) : Char :=
  if value < 10 then Char.ofNat (48 + value) else Char.ofNat (87 + value)

def value? (c : Char) : Option Nat :=
  if '0' ≤ c ∧ c ≤ '9' then some (c.toNat - 48)
  else if 'a' ≤ c ∧ c ≤ 'f' then some (c.toNat - 87)
  else if 'A' ≤ c ∧ c ≤ 'F' then some (c.toNat - 55)
  else none

/-- The lowest `width` digits of `n`, in capitals. -/
def digits : Nat → Nat → List Char
  | 0, _ => []
  | width + 1, n => digits width (n / 16) ++ [capital (n % 16)]

def ofUInt8 (b : UInt8) : String := String.ofList (digits 2 b.toNat)

def ofUInt32 (n : UInt32) : String := String.ofList (digits 8 n.toNat)

/-- Bytes as a reader of logs sees them: `0x7E, 0x00`. -/
def listing (bs : Bytes) : String := ", ".intercalate (bs.map fun b => "0x" ++ ofUInt8 b)

def pairs? : List Char → Option Bytes
  | [] => some []
  | [_] => none
  | high :: low :: rest => do
    let h ← value? high
    let l ← value? low
    let bytes ← pairs? rest
    return UInt8.ofNat (16 * h + l) :: bytes

end Shdlc.Hexadecimal
