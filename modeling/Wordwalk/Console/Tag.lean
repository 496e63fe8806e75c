import Wordwalk.Bytes

/-! Style tags in a text: `<bold>` and the like begin a style and `</>` ends it. A text shown
without style has its tags left out. -/
namespace Wordwalk.Console.Tag

/-- Whether a byte can stand in the name of a tag. -/
def isNameByte (b : UInt8) : Bool :=
  (0x30 ≤ b && b ≤ 0x39) || (0x41 ≤ b && b ≤ 0x5A) || (0x61 ≤ b && b ≤ 0x7A) ||
    b == 0x5F || b == 0x3D || b == 0x2C || b == 0x3B

/-- The text after the tag whose opening bracket stands before `s`. -/
def after? (s : Bytes) : Option Bytes :=
  match (if s.head? = some 0x2F then s.tail else s).dropWhile isNameByte with
  | 0x3E :: rest => some rest
  | _ => none

theorem length_after {s rest : Bytes} (h : after? s = some rest) : rest.length < s.length := by
  have hs : (if s.head? = some 0x2F then s.tail else s).length ≤ s.length := by split <;> simp
  simp only [after?] at h
  split at h
  · rename_i heq
    have hle := (List.dropWhile_suffix (l := if s.head? = some 0x2F then s.tail else s)
      isNameByte).length_le
    simp_all only [Option.some.injEq, List.length_cons]
    omega
  · simp at h

/-- The text without its tags. -/
def remove (s : Bytes) : Bytes :=
  match s with
  | [] => []
  | b :: s =>
    if b = 0x3C then
      match _h : after? s with
      | some rest => remove rest
      | none => b :: remove s
    else b :: remove s
termination_by s.length
decreasing_by
  · have := length_after _h
    simp only [List.length_cons]
    omega
  all_goals simp

/-- The text without its tags, of which it has none unless some style ends in it. -/
def strip (s : Bytes) : Bytes := if Bytes.hasInfix "</>" s then remove s else s

end Wordwalk.Console.Tag
