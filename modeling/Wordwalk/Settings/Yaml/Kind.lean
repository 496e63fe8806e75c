import Wordwalk.Settings.Yaml.Characters

/-! What kind of value the text of a scalar can be read as. -/
namespace Wordwalk.Settings.Yaml

/-- The kinds of scalar; of a whole number the value is kept. -/
inductive Kind where
  | null
  | bool
  | int (value : Int)
  | float
  | timestamp
  | text

namespace Kind

/-- The number that digits of a base spell, if there are some and all are digits of it. -/
def digits? (base : Nat) (s : List Char) : Option Nat :=
  if s.isEmpty then none
  else
    s.foldl (fun n? c => do
      let n ← n?
      let d ←
        if c.isDigit then some (c.toNat - 0x30)
        else if 'a' ≤ c ∧ c ≤ 'f' then some (c.toNat - 0x57)
        else if 'A' ≤ c ∧ c ≤ 'F' then some (c.toNat - 0x37)
        else none
      if d < base then some (n * base + d) else none) (some 0)

/-- The digits of a whole number in the base that its first characters tell. -/
def unsigned? : List Char → Option Nat
  | '0' :: 'x' :: s => digits? 16 s
  | '0' :: 'X' :: s => digits? 16 s
  | '0' :: 'b' :: s => digits? 2 s
  | '0' :: 'B' :: s => digits? 2 s
  | '0' :: 'o' :: s => digits? 8 s
  | '0' :: 'O' :: s => digits? 8 s
  | '0' :: c :: s => digits? 8 (c :: s)
  | s => digits? 10 s

/-- A whole number from a sign, if there is one, and what `read` makes of the rest. A number without
a sign has 64 bits, and one with a sign has one of them for it. -/
def signed? (read : List Char → Option Nat) (s : List Char) : Option Int :=
  match s with
  | '+' :: s => (read s).bind fun n => if n < 0x8000000000000000 then some (n : Int) else none
  | '-' :: s => (read s).bind fun n => if n ≤ 0x8000000000000000 then some (-(n : Int)) else none
  | s => (read s).bind fun n => if n < 0x10000000000000000 then some (n : Int) else none

/-- A whole number; after a binary or octal mark a sign may stand too. -/
def int? (s : List Char) : Option Int :=
  match signed? unsigned? s with
  | some n => some n
  | none =>
    match s with
    | '0' :: 'b' :: s => signed? (digits? 2) s
    | '0' :: 'o' :: s => signed? (digits? 8) s
    | _ => none

/-- A decimal number as its digits and the power of ten that they are multiplied by. -/
def decimal? (s : List Char) : Option (Nat × Int) := do
  let whole := s.takeWhile Char.isDigit
  let s := s.drop whole.length
  let (fraction, s) :=
    match s with
    | '.' :: s => (s.takeWhile Char.isDigit, s.dropWhile Char.isDigit)
    | s => ([], s)
  guard (!(whole.isEmpty && fraction.isEmpty))
  let mantissa ← digits? 10 (whole ++ fraction)
  let exponent : Int ←
    match s with
    | [] => some 0
    | e :: s => do
      guard (e = 'e' ∨ e = 'E')
      match s with
      | '-' :: s => (digits? 10 s).map fun n => -(n : Int)
      | '+' :: s => (digits? 10 s).map fun n => (n : Int)
      | s => (digits? 10 s).map fun n => (n : Int)
  pure (mantissa, exponent - fraction.length)

/-- Whether `m` times ten to the power `e` is within the range of a double, which ends half a unit
above the greatest one. -/
def inRange (m : Nat) (e : Int) : Bool :=
  let bound := Nat.pow 2 1024 - Nat.pow 2 970
  if m = 0 then true
  else if e < 0 then
    let places := (-e).toNat
    places ≥ (toString m).length || m < bound * Nat.pow 10 places
  else e ≤ 310 && m * Nat.pow 10 e.toNat < bound

/-- A decimal number within the range of a double, with a sign or not. -/
def isFloat (s : List Char) : Bool :=
  let s :=
    match s with
    | '+' :: s => s
    | '-' :: s => s
    | s => s
  match decimal? s with
  | some (m, e) => inRange m e
  | none => false

/-- A number of one or two digits at the front of a text. -/
def shortNumber : List Char → Option (Nat × List Char)
  | a :: b :: s =>
    if a.isDigit && b.isDigit then some ((a.toNat - 0x30) * 10 + (b.toNat - 0x30), s)
    else if a.isDigit then some (a.toNat - 0x30, b :: s)
    else none
  | [a] => if a.isDigit then some (a.toNat - 0x30, []) else none
  | [] => none

/-- The text after a character that must come first. -/
def after? (c : Char) : List Char → Option (List Char)
  | [] => none
  | x :: s => if x = c then some s else none

/-- The days of a month. -/
def daysIn (year month : Nat) : Nat :=
  if month = 2 then
    if year % 4 = 0 ∧ (year % 100 ≠ 0 ∨ year % 400 = 0) then 29 else 28
  else if month = 4 ∨ month = 6 ∨ month = 9 ∨ month = 11 then 30
  else 31

/-- The text after a time of day: hours, minutes and seconds with any decimals. -/
def afterClock (s : List Char) : Option (List Char) := do
  let (hour, s) ← shortNumber s
  guard (hour < 24)
  let (minute, s) ← shortNumber (← after? ':' s)
  guard (minute < 60)
  let (second, s) ← shortNumber (← after? ':' s)
  guard (second < 60)
  match s with
  | p :: d :: t =>
    if (p = '.' ∨ p = ',') ∧ d.isDigit then pure (t.dropWhile Char.isDigit) else pure s
  | s => pure s

/-- Whether a text is a time zone: `Z` or an offset in hours and minutes. -/
def isZone : List Char → Bool
  | ['Z'] => true
  | [sign, a, b, ':', c, d] =>
    (sign == '+' || sign == '-') && [a, b, c, d].all Char.isDigit &&
      (digits? 10 [a, b]).getD 0 ≤ 24 && (digits? 10 [c, d]).getD 0 ≤ 60
  | _ => false

/-- Whether a text is a date, alone or with a time of day. -/
def isTimestamp (s : List Char) : Bool :=
  let answer : Option Bool := do
    let year ← digits? 10 (s.take 4)
    guard ((s.take 4).length = 4)
    let (month, s) ← shortNumber (← after? '-' (s.drop 4))
    guard (1 ≤ month ∧ month ≤ 12)
    let (day, s) ← shortNumber (← after? '-' s)
    guard (1 ≤ day ∧ day ≤ daysIn year month)
    match s with
    | [] => pure true
    | ' ' :: s => pure ((← afterClock (s.dropWhile (· == ' '))).isEmpty)
    | t :: s => do
      guard (t = 'T' ∨ t = 't')
      pure (isZone (← afterClock s))
  answer.getD false

/-- The texts that stand for no value. -/
def nullWords : List String := ["", "~", "null", "Null", "NULL"]

def boolWords : List String := ["true", "True", "TRUE", "false", "False", "FALSE"]

def floatWords : List String :=
  [".nan", ".NaN", ".NAN", ".inf", ".Inf", ".INF", "+.inf", "+.Inf", "+.INF", "-.inf", "-.Inf",
    "-.INF"]

/-- The kind of a text. A date is one only where `dated`. Underscores may divide the digits of a
number that does not begin with a point. -/
def ofText (dated : Bool) (s : List Char) : Kind :=
  let word := String.ofList s
  if nullWords.contains word then .null
  else if boolWords.contains word then .bool
  else if floatWords.contains word then .float
  else
    match s with
    | [] => .null
    | c :: _ =>
      if c = '.' then if isFloat s then .float else .text
      else if c.isDigit || c == '+' || c == '-' then
        if dated && isTimestamp s then .timestamp
        else
          let digits := s.filter (· != '_')
          match int? digits with
          | some n => .int n
          | none => if isFloat digits then .float else .text
      else .text

end Kind
end Wordwalk.Settings.Yaml
