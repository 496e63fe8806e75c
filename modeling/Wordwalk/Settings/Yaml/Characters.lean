import Wordwalk.Text.Rune

/-! The characters of a YAML text. The text is UTF-8, or UTF-16 if it starts with a byte order mark
of that form, and control characters are refused. -/
namespace Wordwalk.Settings.Yaml

/-- A space or a tab. -/
def isBlank (c : Char) : Bool := c == ' ' || c == '\t'

/-- A line break, once all the ways to end a line but the line and paragraph separators have been
made line feeds. -/
def isBreak (c : Char) : Bool := c == '\n' || c == '\u2028' || c == '\u2029'

/-- A blank or a line break. -/
def isGap (c : Char) : Bool := isBlank c || isBreak c

/-- A character of an anchor's name. -/
def isWord (c : Char) : Bool := c.isAlphanum || c == '_' || c == '-'

/-- Whether a text is at its end, at a line break or at a blank. -/
def gapAhead : List Char → Bool
  | [] => true
  | c :: _ => isGap c

/-- Whether a text begins with one of the two marks between documents: three hyphens or three dots,
with nothing after them on the line or a blank. -/
def markAhead : List Char → Bool
  | '-' :: '-' :: '-' :: s => gapAhead s
  | '.' :: '.' :: '.' :: s => gapAhead s
  | _ => false

/-- The characters that a text may hold. -/
def isAllowed (code : Nat) : Bool :=
  code == 0x09 || code == 0x0A || code == 0x0D || (0x20 ≤ code && code ≤ 0x7E) || code == 0x85 ||
    (0xA0 ≤ code && code ≤ 0xD7FF) || (0xE000 ≤ code && code ≤ 0xFFFD) ||
    (0x10000 ≤ code && code ≤ 0x10FFFF)

/-- A carriage return, with a line feed after it or not, and the next-line character end a line as a
line feed does. -/
def unifyBreaks : List Nat → List Nat
  | 0x0D :: 0x0A :: codes => 0x0A :: unifyBreaks codes
  | 0x0D :: codes => 0x0A :: unifyBreaks codes
  | 0x85 :: codes => 0x0A :: unifyBreaks codes
  | code :: codes => code :: unifyBreaks codes
  | [] => []

/-- The numbers that pairs of bytes spell, the more significant byte second unless `big`. -/
def units16 (big : Bool) : Bytes → Option (List Nat)
  | [] => some []
  | [_] => none
  | a :: b :: s =>
    let n := if big then a.toNat * 256 + b.toNat else b.toNat * 256 + a.toNat
    (units16 big s).map (n :: ·)

/-- The code points of UTF-16 units; a surrogate must be one of a pair. -/
def codes16 : List Nat → Option (List Nat)
  | [] => some []
  | hi :: lo :: units =>
    if 0xD800 ≤ hi ∧ hi < 0xDC00 then
      if 0xDC00 ≤ lo ∧ lo < 0xE000 then
        (codes16 units).map ((0x10000 + (hi - 0xD800) * 1024 + (lo - 0xDC00)) :: ·)
      else none
    else if 0xDC00 ≤ hi ∧ hi < 0xE000 then none
    else (codes16 (lo :: units)).map (hi :: ·)
  | [unit] => if 0xD800 ≤ unit ∧ unit < 0xE000 then none else some [unit]

/-- The code points of UTF-8 text. -/
def codes8 (s : Bytes) : Option (List Nat) := if s.isUtf8 then some s.codes else none

/-- The code points of a text, without its byte order mark. -/
def codePoints : Bytes → Option (List Nat)
  | 0xFF :: 0xFE :: s => (units16 false s).bind codes16
  | 0xFE :: 0xFF :: s => (units16 true s).bind codes16
  | 0xEF :: 0xBB :: 0xBF :: s => codes8 s
  | s => codes8 s

/-- The characters of a text, if it is well-formed. -/
def characters (s : Bytes) : Option (List Char) := do
  let codes ← codePoints s
  if codes.all isAllowed then some ((unifyBreaks codes).map Char.ofNat) else none

/-- The UTF-8 bytes of characters. -/
def bytesOf (cs : List Char) : Bytes := Bytes.ofCodes (cs.map Char.toNat)

end Wordwalk.Settings.Yaml
