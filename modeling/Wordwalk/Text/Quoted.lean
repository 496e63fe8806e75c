import Wordwalk.Text.Rune
import Wordwalk.Text.Printable

/-! Text between double quotes, as messages show it: what cannot be shown is written as an
escape. -/
namespace Wordwalk
namespace Quoted

/-- The lower-case hexadecimal digit of a number below sixteen. -/
def hexDigit (n : Nat) : UInt8 := (if n < 10 then 0x30 + n else 0x57 + n).toUInt8

/-- The last `width` hexadecimal digits of a number. -/
def hex : (width : Nat) → Nat → Bytes
  | 0, _ => []
  | width + 1, n => hex width (n / 16) ++ [hexDigit (n % 16)]

/-- The letter of a short escape, for the code points that have one. -/
def short : Nat → Option UInt8
  | 0x07 => some 0x61
  | 0x08 => some 0x62
  | 0x09 => some 0x74
  | 0x0A => some 0x6E
  | 0x0B => some 0x76
  | 0x0C => some 0x66
  | 0x0D => some 0x72
  | 0x5C => some 0x5C
  | _ => none

/-- A code point between quotes of the kind `quote`. -/
def point (quote code : Nat) : Bytes :=
  if code = quote then 0x5C :: Rune.encode quote
  else
    match short code with
    | some b => [0x5C, b]
    | none =>
      if isPrintable code then Rune.encode code
      else if code < 0x20 || code == 0x7F then "\\x" ++ hex 2 code
      else if code < 0x10000 then "\\u" ++ hex 4 code
      else "\\U" ++ hex 8 code

/-- A rune between double quotes. -/
def rune (r : Rune) : Bytes :=
  if r.isStray then "\\x" ++ r.bytes.flatMap fun b => hex 2 b.toNat else point 0x22 r.code

/-- A code point between single quotes. -/
def letter (code : Nat) : Bytes := "'" ++ point 0x27 code ++ "'"

/-- Whether a text can stand between back quotes as it is: valid, on one line, and without back
quotes, control characters other than tabs, and byte order marks. -/
def fitsBackquotes (s : Bytes) : Bool :=
  (Rune.decode s).all fun r =>
    !r.isStray && r.code != 0x60 && r.code != 0x7F && r.code != 0xFEFF &&
      (0x20 ≤ r.code || r.code == 0x09)

end Quoted

namespace Bytes

/-- The text in double quotes. -/
def quoted (s : Bytes) : Bytes := "\"" ++ (Rune.decode s).flatMap Quoted.rune ++ "\""

/-- The text in back quotes, or in double quotes if it cannot stand in back quotes. -/
def backquoted (s : Bytes) : Bytes :=
  if Quoted.fitsBackquotes s then "`" ++ s ++ "`" else s.quoted

end Bytes
end Wordwalk
