/-! Texts, names and file contents are lists of bytes: nothing promises that they are UTF-8. -/
namespace Wordwalk

abbrev Bytes := List UInt8

namespace Bytes

/-- The UTF-8 bytes of a literal. -/
def ofString (s : String) : Bytes := s.toUTF8.data.toList

instance : Coe String Bytes := ⟨ofString⟩

/-- The decimal digits of a number. -/
def ofNat (n : Nat) : Bytes := ofString (toString n)

/-- The decimal digits of a number, after a minus sign if it is negative. -/
def ofInt : Int → Bytes
  | .ofNat n => ofNat n
  | .negSucc n => 0x2D :: ofNat (n + 1)

/-- The parts with `sep` between each two of them. -/
def join (sep : Bytes) : List Bytes → Bytes
  | [] => []
  | [part] => part
  | part :: parts => part ++ sep ++ join sep parts

/-- Whether `part` stands somewhere in `s`. -/
def hasInfix (part : Bytes) : Bytes → Bool
  | [] => part.isEmpty
  | b :: s => part.isPrefixOf (b :: s) || hasInfix part s

/-- An ASCII capital becomes the small letter; every other byte stays. -/
def lowerByte (b : UInt8) : UInt8 := if 0x41 ≤ b ∧ b ≤ 0x5A then b + 0x20 else b

/-- The text with its ASCII capitals made small. -/
def lower (s : Bytes) : Bytes := s.map lowerByte

/-- The pieces of `s` between the bytes equal to `sep`. -/
def splitOn (sep : UInt8) : Bytes → List Bytes
  | [] => [[]]
  | b :: s =>
    if b = sep then [] :: splitOn sep s
    else
      match splitOn sep s with
      | [] => [[b]]
      | piece :: pieces => (b :: piece) :: pieces

/-- Bytewise lexicographic order. -/
def le (s t : Bytes) : Bool := decide (s ≤ t)

theorem join_cons (sep part next : Bytes) (parts : List Bytes) :
    join sep (part :: next :: parts) = part ++ sep ++ join sep (next :: parts) := rfl

theorem join_nil (parts : List Bytes) : join [] parts = parts.flatten := by
  induction parts with
  | nil => rfl
  | cons part parts ih =>
    cases parts with
    | nil => simp [join]
    | cons next parts => simp [join_cons, ih]

theorem splitOn_ne_nil (sep : UInt8) (s : Bytes) : splitOn sep s ≠ [] := by
  cases s with
  | nil => simp [splitOn]
  | cons b s =>
    simp only [splitOn]
    split
    · simp
    · split <;> simp

end Bytes
end Wordwalk
