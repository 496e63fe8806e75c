import Wordwalk.Bytes

/-! Lines end at LF, CR or the pair CR LF; what follows the last end is a line too. -/
namespace Wordwalk

/-- The line ends in a text. -/
def lineEnds : Bytes → Nat
  | [] => 0
  | 0x0D :: 0x0A :: s => lineEnds s + 1
  | b :: s => if b = 0x0D ∨ b = 0x0A then lineEnds s + 1 else lineEnds s

/-- The lines of a text: one more than its line ends, also for an empty text. -/
def lineCount (s : Bytes) : Nat := lineEnds s + 1

end Wordwalk
