import Wordwalk.Bytes

/-! Reading bytes as UTF-8. A byte that starts no well-formed sequence is a rune of its own,
so every byte string has a decoding and no byte is lost. -/
namespace Wordwalk

/-- A decoded unit of text: its code point and the bytes it was read from. -/
structure Rune where
  code : Nat
  bytes : Bytes
deriving DecidableEq, Repr

namespace Rune

/-- The code point that stands for a byte which is not UTF-8. -/
def replacement : Nat := 0xFFFD

/-- Whether `b` can continue a sequence, within the bounds that its lead byte sets. -/
def continues (lo hi b : UInt8) : Bool := lo ≤ b && b ≤ hi

/-- The least value of the second byte of a sequence led by `b`; below it the form is overlong. -/
def secondLo (b : UInt8) : UInt8 := if b = 0xE0 then 0xA0 else if b = 0xF0 then 0x90 else 0x80

/-- The greatest value of the second byte of a sequence led by `b`; above it lie the surrogates
and the numbers past the last code point. -/
def secondHi (b : UInt8) : UInt8 := if b = 0xED then 0x9F else if b = 0xF4 then 0x8F else 0xBF

/-- The six payload bits of a continuation byte. -/
def payload (b : UInt8) : Nat := b.toNat % 64

/-- The number of continuation bytes that the lead byte `b` asks for, if it is a lead byte. -/
def following (b : UInt8) : Option Nat :=
  if b < 0x80 then some 0
  else if b < 0xC2 then none
  else if b < 0xE0 then some 1
  else if b < 0xF0 then some 2
  else if b < 0xF5 then some 3
  else none

/-- The rune at the front of `b :: s`. -/
def first (b : UInt8) (s : Bytes) : Rune :=
  match following b, s with
  | some 0, _ => ⟨b.toNat, [b]⟩
  | some 1, c :: _ =>
    if continues 0x80 0xBF c then ⟨b.toNat % 32 * 64 + payload c, [b, c]⟩ else ⟨replacement, [b]⟩
  | some 2, c :: d :: _ =>
    if continues (secondLo b) (secondHi b) c && continues 0x80 0xBF d then
      ⟨b.toNat % 16 * 4096 + payload c * 64 + payload d, [b, c, d]⟩
    else ⟨replacement, [b]⟩
  | some 3, c :: d :: e :: _ =>
    if continues (secondLo b) (secondHi b) c && continues 0x80 0xBF d && continues 0x80 0xBF e then
      ⟨b.toNat % 8 * 262144 + payload c * 4096 + payload d * 64 + payload e, [b, c, d, e]⟩
    else ⟨replacement, [b]⟩
  | _, _ => ⟨replacement, [b]⟩

/-- The runes of a text whose first `skip` bytes belong to a rune already read. -/
def decodeFrom : (skip : Nat) → Bytes → List Rune
  | _, [] => []
  | 0, b :: s => first b s :: decodeFrom ((first b s).bytes.length - 1) s
  | skip + 1, _ :: s => decodeFrom skip s

/-- The runes of a text. -/
def decode (s : Bytes) : List Rune := decodeFrom 0 s

/-- Whether the rune stands for a byte that is not UTF-8. -/
def isStray (r : Rune) : Bool := r.code == replacement && r.bytes.length == 1

/-- The UTF-8 bytes of a code point; a number that is none gives the replacement character. -/
def encode (code : Nat) : Bytes :=
  if code < 0x80 then [code.toUInt8]
  else if code < 0x800 then [(0xC0 + code / 64).toUInt8, (0x80 + code % 64).toUInt8]
  else if (0xD800 ≤ code ∧ code < 0xE000) ∨ 0x110000 ≤ code then [0xEF, 0xBF, 0xBD]
  else if code < 0x10000 then
    [(0xE0 + code / 4096).toUInt8, (0x80 + code / 64 % 64).toUInt8, (0x80 + code % 64).toUInt8]
  else
    [(0xF0 + code / 262144).toUInt8, (0x80 + code / 4096 % 64).toUInt8,
      (0x80 + code / 64 % 64).toUInt8, (0x80 + code % 64).toUInt8]

/-- The bytes of a run of runes. -/
def flatten (rs : List Rune) : Bytes := rs.flatMap Rune.bytes

end Rune

namespace Bytes

/-- The code points of a text, each stray byte as the replacement character. -/
def codes (s : Bytes) : List Nat := (Rune.decode s).map Rune.code

/-- The text of a list of code points. -/
def ofCodes (cs : List Nat) : Bytes := cs.flatMap Rune.encode

/-- The first code point of a text and the bytes after it. -/
def nextCode : Bytes → Option (Nat × Bytes)
  | [] => none
  | b :: s => some ((Rune.first b s).code, s.drop ((Rune.first b s).bytes.length - 1))

theorem length_of_nextCode {s rest : Bytes} {c : Nat} (h : nextCode s = some (c, rest)) :
    rest.length < s.length := by
  cases s with
  | nil => simp [nextCode] at h
  | cons b s =>
    simp only [nextCode, Option.some.injEq, Prod.mk.injEq] at h
    rw [← h.2, List.length_drop, List.length_cons]
    omega

/-- Whether every byte belongs to a well-formed sequence. -/
def isUtf8 (s : Bytes) : Bool := (Rune.decode s).all fun r => !r.isStray

/-- The text with the replacement character in place of each stray byte. -/
def scrub (s : Bytes) : Bytes :=
  (Rune.decode s).flatMap fun r => if r.isStray then Rune.encode Rune.replacement else r.bytes

end Bytes
end Wordwalk
