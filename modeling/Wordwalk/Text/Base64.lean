import Wordwalk.Bytes

/-! Bytes written with 64 letters, six bits each, in groups of four that padding completes. -/
namespace Wordwalk.Base64

/-- The six bits that a letter stands for. -/
def value? (b : UInt8) : Option Nat :=
  if 0x41 ≤ b ∧ b ≤ 0x5A then some (b.toNat - 0x41)
  else if 0x61 ≤ b ∧ b ≤ 0x7A then some (b.toNat - 0x61 + 26)
  else if 0x30 ≤ b ∧ b ≤ 0x39 then some (b.toNat - 0x30 + 52)
  else if b = 0x2B then some 62
  else if b = 0x2F then some 63
  else none

/-- The bytes of groups of four letters. Bits that the padding cuts off are not looked at. -/
def decodeGroups : Bytes → Option Bytes
  | [] => some []
  | [a, b, 0x3D, 0x3D] => do
    let n := (← value? a) * 64 + (← value? b)
    pure [(n / 16).toUInt8]
  | [a, b, c, 0x3D] => do
    let n := ((← value? a) * 64 + (← value? b)) * 64 + (← value? c)
    pure [(n / 1024).toUInt8, (n / 4 % 256).toUInt8]
  | a :: b :: c :: d :: s => do
    let n := (((← value? a) * 64 + (← value? b)) * 64 + (← value? c)) * 64 + (← value? d)
    pure ((n / 65536).toUInt8 :: (n / 256 % 256).toUInt8 :: (n % 256).toUInt8 :: (← decodeGroups s))
  | _ => none

/-- The bytes that a text stands for; line breaks in it count for nothing. -/
def decode (s : Bytes) : Option Bytes := decodeGroups (s.filter fun b => b != 0x0A && b != 0x0D)

end Wordwalk.Base64
