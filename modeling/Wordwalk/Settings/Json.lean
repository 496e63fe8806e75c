import Wordwalk.Settings.Basic

/-! Settings in JSON: the first value of the text, which is an object or null. What follows it is
not read. -/
namespace Wordwalk.Settings.Json

/-- The text after leading white space. -/
def skipBlanks (s : Bytes) : Bytes :=
  s.dropWhile fun b => b == 0x20 || b == 0x09 || b == 0x0A || b == 0x0D

theorem length_skipBlanks (s : Bytes) : (skipBlanks s).length ≤ s.length :=
  (List.dropWhile_sublist _).length_le

/-- The value of a hexadecimal digit. -/
def hexValue? (b : UInt8) : Option Nat :=
  if 0x30 ≤ b ∧ b ≤ 0x39 then some (b.toNat - 0x30)
  else if 0x41 ≤ b ∧ b ≤ 0x46 then some (b.toNat - 0x37)
  else if 0x61 ≤ b ∧ b ≤ 0x66 then some (b.toNat - 0x57)
  else none

/-- The number that four hexadecimal digits spell. -/
def unit? (a b c d : UInt8) : Option Nat := do
  let a ← hexValue? a
  let b ← hexValue? b
  let c ← hexValue? c
  let d ← hexValue? d
  pure (a * 4096 + b * 256 + c * 16 + d)

/-- The byte that a letter after a backslash stands for. -/
def escape? : UInt8 → Option UInt8
  | 0x22 => some 0x22
  | 0x5C => some 0x5C
  | 0x2F => some 0x2F
  | 0x62 => some 0x08
  | 0x66 => some 0x0C
  | 0x6E => some 0x0A
  | 0x72 => some 0x0D
  | 0x74 => some 0x09
  | _ => none

/-- A part of a string: a byte, or a number given by an escape of four digits. -/
inductive Piece where
  | byte (b : UInt8)
  | unit (n : Nat)

/-- The pieces of a string up to its closing quote, and the text after it. -/
def readPieces : Bytes → Option (List Piece × Bytes)
  | [] => none
  | 0x22 :: s => some ([], s)
  | 0x5C :: 0x75 :: a :: b :: c :: d :: s =>
    match unit? a b c d, readPieces s with
    | some n, some (pieces, rest) => some (.unit n :: pieces, rest)
    | _, _ => none
  | 0x5C :: e :: s =>
    match escape? e, readPieces s with
    | some b, some (pieces, rest) => some (.byte b :: pieces, rest)
    | _, _ => none
  | b :: s =>
    if b < 0x20 then none
    else
      match readPieces s with
      | some (pieces, rest) => some (.byte b :: pieces, rest)
      | none => none

/-- The bytes that pieces spell. Two numbers that are a surrogate pair are one code point; a
surrogate alone is replaced. -/
def spell : List Piece → Bytes
  | [] => []
  | .byte b :: pieces => b :: spell pieces
  | .unit hi :: .unit lo :: pieces =>
    if 0xD800 ≤ hi ∧ hi < 0xDC00 ∧ 0xDC00 ≤ lo ∧ lo < 0xE000 then
      Rune.encode (0x10000 + (hi - 0xD800) * 1024 + (lo - 0xDC00)) ++ spell pieces
    else Rune.encode hi ++ spell (.unit lo :: pieces)
  | .unit n :: pieces => Rune.encode n ++ spell pieces

/-- The string whose opening quote stands before a text, and the text after it. -/
def readString (s : Bytes) : Option (Bytes × Bytes) :=
  (readPieces s).map fun (pieces, rest) => (Bytes.scrub (spell pieces), rest)

theorem length_readPieces {s rest : Bytes} {pieces : List Piece}
    (h : readPieces s = some (pieces, rest)) : rest.length < s.length := by
  fun_induction readPieces s generalizing pieces rest with
  | case2 => simp_all
  | case3 | case5 | case8 =>
    rename_i ih
    simp only [Option.some.injEq, Prod.mk.injEq] at h
    have := ih ‹readPieces _ = _›
    rw [← h.2]
    simp only [List.length_cons]
    omega
  | _ => simp at h

theorem length_readString {s rest v : Bytes} (h : readString s = some (v, rest)) :
    rest.length < s.length := by
  obtain ⟨⟨pieces, r⟩, hp, he⟩ := Option.map_eq_some_iff.1 h
  simp only [Prod.mk.injEq] at he
  rw [← he.2]
  exact length_readPieces hp

/-- A string or null, and the text after it. -/
def readItem (s : Bytes) : Option (Option Bytes × Bytes) :=
  match skipBlanks s with
  | 0x22 :: s => (readString s).map fun (v, rest) => (some v, rest)
  | 0x6E :: 0x75 :: 0x6C :: 0x6C :: rest => some (none, rest)
  | _ => none

theorem length_readItem {s rest : Bytes} {v : Option Bytes} (h : readItem s = some (v, rest)) :
    rest.length < s.length := by
  have hs := length_skipBlanks s
  simp only [readItem] at h
  split at h
  · rename_i t ht
    obtain ⟨⟨w, r⟩, hp, he⟩ := Option.map_eq_some_iff.1 h
    have := length_readString hp
    simp_all
    omega
  · simp_all
    omega
  · simp at h

/-- The items of an array from one of them to the closing bracket, and the text after it. -/
def readItems (s : Bytes) : Option (List (Option Bytes) × Bytes) :=
  match _h : readItem s with
  | none => none
  | some (item, rest) =>
    match _hr : skipBlanks rest with
    | 0x2C :: more => (readItems more).map fun (items, rest) => (item :: items, rest)
    | 0x5D :: rest => some ([item], rest)
    | _ => none
termination_by s.length
decreasing_by
  have h1 := length_readItem _h
  have h2 := length_skipBlanks rest
  rw [_hr, List.length_cons] at h2
  omega

theorem length_readItems {s rest : Bytes} {items : List (Option Bytes)}
    (h : readItems s = some (items, rest)) : rest.length < s.length := by
  fun_induction readItems s generalizing items rest with
  | case1 => simp at h
  | case2 s item rest' hi more hr ih =>
    obtain ⟨⟨is, r⟩, hp, he⟩ := Option.map_eq_some_iff.1 h
    simp only [Prod.mk.injEq] at he
    have h1 := ih hp
    have h2 := length_readItem hi
    have h3 := length_skipBlanks rest'
    rw [hr, List.length_cons] at h3
    rw [← he.2]
    omega
  | case3 s item rest' hi more hr =>
    have h2 := length_readItem hi
    have h3 := length_skipBlanks rest'
    rw [hr, List.length_cons] at h3
    simp_all
    omega
  | case4 => simp at h

/-- An array of strings and nulls, or null, and the text after it. -/
def readArray (s : Bytes) : Option (Option (List (Option Bytes)) × Bytes) :=
  match skipBlanks s with
  | 0x6E :: 0x75 :: 0x6C :: 0x6C :: rest => some (none, rest)
  | 0x5B :: s =>
    match skipBlanks s with
    | 0x5D :: rest => some (some [], rest)
    | s => (readItems s).map fun (items, rest) => (some items, rest)
  | _ => none

theorem length_readArray {s rest : Bytes} {items : Option (List (Option Bytes))}
    (h : readArray s = some (items, rest)) : rest.length < s.length := by
  have hs := length_skipBlanks s
  simp only [readArray] at h
  split at h
  · simp_all
    omega
  · rename_i t ht
    have ht' := length_skipBlanks t
    rw [ht, List.length_cons] at hs
    split at h
    · simp_all
      omega
    · obtain ⟨⟨is, r⟩, hp, he⟩ := Option.map_eq_some_iff.1 h
      simp only [Prod.mk.injEq] at he
      have := length_readItems hp
      rw [← he.2]
      omega
  · simp at h

/-- What has been read so far. `stored` holds every pattern that a list in this text has put at its
index, and the list of patterns is the first `count` of them. -/
structure Draft where
  stored : List Bytes := []
  count : Nat := 0
  separator : Bytes := []

namespace Draft

/-- A list takes the place of the list before; where it has a null, what was last stored at that
index stays. -/
def overlay : List Bytes → List (Option Bytes) → List Bytes
  | stored, [] => stored
  | [], item :: items => item.getD [] :: overlay [] items
  | old :: stored, item :: items => item.getD old :: overlay stored items

/-- Take over a list of patterns; null and an empty list clear it. -/
def setIgnore (d : Draft) (items : Option (List (Option Bytes))) : Draft :=
  match items with
  | none | some [] => { d with stored := [], count := 0 }
  | some items => { d with stored := overlay d.stored items, count := items.length }

/-- Take over a separator; null changes nothing. -/
def setSeparator (d : Draft) (item : Option Bytes) : Draft :=
  { d with separator := item.getD d.separator }

def settings (d : Draft) : Settings := ⟨d.stored.take d.count, d.separator⟩

end Draft

/-- A code point with the difference between small and capital letters removed. Two letters beyond
ASCII are variants of ASCII ones. -/
def fold (code : Nat) : Nat :=
  if 0x61 ≤ code ∧ code ≤ 0x7A then code - 0x20
  else if code = 0x17F then 0x53
  else if code = 0x212A then 0x4B
  else code

/-- Whether two names are equal but for case. -/
def sameName (s t : Bytes) : Bool := s.codes.map fold == t.codes.map fold

/-- The name of a member with the colon after it, from before the name's opening quote. -/
def readName (s : Bytes) : Option (Bytes × Bytes) :=
  match skipBlanks s with
  | 0x22 :: s =>
    match readString s with
    | some (name, rest) =>
      match skipBlanks rest with
      | 0x3A :: rest => some (name, rest)
      | _ => none
    | none => none
  | _ => none

/-- One member of the object taken over into the draft, and the text after it. -/
def readMember (d : Draft) (s : Bytes) : Option (Draft × Bytes) :=
  match readName s with
  | none => none
  | some (name, s) =>
    if sameName name "ignore" then
      (readArray s).map fun (items, rest) => (d.setIgnore items, rest)
    else if sameName name "separator" then
      (readItem s).map fun (item, rest) => (d.setSeparator item, rest)
    else none

theorem length_readName {s rest name : Bytes} (h : readName s = some (name, rest)) :
    rest.length < s.length := by
  have hs := length_skipBlanks s
  simp only [readName] at h
  split at h
  · rename_i t ht
    rw [ht, List.length_cons] at hs
    split at h
    · rename_i n r hr
      have h1 := length_readString hr
      have h2 := length_skipBlanks r
      split at h
      · rename_i u hu
        rw [hu, List.length_cons] at h2
        simp only [Option.some.injEq, Prod.mk.injEq] at h
        rw [← h.2]
        omega
      · simp at h
    · simp at h
  · simp at h

theorem length_readMember {d e : Draft} {s rest : Bytes} (h : readMember d s = some (e, rest)) :
    rest.length < s.length := by
  simp only [readMember] at h
  split at h
  · simp at h
  · rename_i name t ht
    have h1 := length_readName ht
    split at h
    · obtain ⟨⟨v, r⟩, hp, he⟩ := Option.map_eq_some_iff.1 h
      have := length_readArray hp
      simp only [Prod.mk.injEq] at he
      rw [← he.2]
      omega
    · split at h
      · obtain ⟨⟨v, r⟩, hp, he⟩ := Option.map_eq_some_iff.1 h
        have := length_readItem hp
        simp only [Prod.mk.injEq] at he
        rw [← he.2]
        omega
      · simp at h

/-- The members of the object from one of them to the closing brace. -/
def readMembers (d : Draft) (s : Bytes) : Option Draft :=
  match _h : readMember d s with
  | none => none
  | some (e, rest) =>
    match _hr : skipBlanks rest with
    | 0x2C :: more => readMembers e more
    | 0x7D :: _ => some e
    | _ => none
termination_by s.length
decreasing_by
  have h1 := length_readMember _h
  have h2 := length_skipBlanks rest
  rw [_hr, List.length_cons] at h2
  omega

/-- The settings that a JSON text gives. -/
def parse (s : Bytes) : Except Fault Settings :=
  let draft : Option Draft :=
    match skipBlanks s with
    | 0x6E :: 0x75 :: 0x6C :: 0x6C :: _ => some {}
    | 0x7B :: s =>
      match skipBlanks s with
      | 0x7D :: _ => some {}
      | s => readMembers {} s
    | _ => none
  match draft with
  | some draft => .ok draft.settings
  | none => .error (.unreadable .json)

end Wordwalk.Settings.Json
