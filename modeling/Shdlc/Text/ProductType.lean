import Shdlc.Text.Number
import Shdlc.Error
/-! Product types as devices write them: a number in base 16, with or without `0x` in front. -/
namespace Shdlc.Text

/-- The largest 32-bit word. -/
def maxWord32 : Nat := 0xFFFFFFFF

def productType (text : String) : Except Error UInt32 :=
  let trimmed := trim text.toList
  match readUnsigned 16 maxWord32 ((afterHexPrefix? trimmed).getD trimmed) with
  | .ok n => .ok (UInt32.ofNat n)
  | .error _ => .error (.response (.productType text) (some text.toUTF8.toList))

end Shdlc.Text
