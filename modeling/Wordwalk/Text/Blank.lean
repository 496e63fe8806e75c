import Wordwalk.Text.Rune

/-! The code points that separate tokens, and the narrower set that counts as white space. -/
namespace Wordwalk

/-- The code points with the Unicode property White_Space. -/
def isWhite (code : Nat) : Bool :=
  (0x09 ≤ code && code ≤ 0x0D) || code == 0x20 || code == 0x85 || code == 0xA0 || code == 0x1680 ||
  (0x2000 ≤ code && code ≤ 0x200A) || code == 0x2028 || code == 0x2029 || code == 0x202F ||
  code == 0x205F || code == 0x3000

/-- White space together with the four information separators U+001C to U+001F. -/
def isBlank (code : Nat) : Bool := isWhite code || (0x1C ≤ code && code ≤ 0x1F)

/-- Whether the rune separates tokens; a stray byte never does. -/
def Rune.isBlank (r : Rune) : Bool := Wordwalk.isBlank r.code

/-- Whether a text is empty or white space only. -/
def Bytes.isWhite (s : Bytes) : Bool := (Rune.decode s).all fun r => Wordwalk.isWhite r.code

end Wordwalk
