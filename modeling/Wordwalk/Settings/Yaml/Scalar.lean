import Wordwalk.Settings.Yaml.Cursor

/-! Scalars of a YAML text: plain, between quotes, and in a block of lines. Each reader gives the
text of the scalar and the place after it. -/
namespace Wordwalk.Settings.Yaml

/-- What a run of blanks and line breaks inside a scalar stands for: one line break is a space, and
of several the first is dropped. -/
def fold (gap : List Char) : List Char :=
  match gap.filter isBreak with
  | [] => gap
  | first :: more =>
    if first != '\n' then first :: more
    else if more.isEmpty then [' ']
    else more

/-- Whether a line after the first begins with a tab left of column `margin`. -/
def tabIn (margin : Nat) (gap : List Char) : Bool :=
  ((gap.dropWhile isBlank).splitBy fun _ b => !isBreak b).any fun line =>
    (line.drop 1 |>.take margin).contains '\t'

namespace Plain

/-- Whether a plain scalar ends before what is left of the text. -/
def stops (flow : Bool) : List Char → Bool
  | [] => true
  | ':' :: s => gapAhead s
  | c :: _ => isGap c || (flow && [',', '?', '[', ']', '\x7b', '\x7d'].contains c)

/-- The rest of a plain scalar, given the pieces read so far in reverse, and the blanks and breaks
after them. Tells also whether a line break was read at the end. -/
def readFrom (flow : Bool) (margin : Nat) :
    (fuel : Nat) → (pieces : List (List Char)) → (gap : List Char) → Cursor →
      Option (List Char × Bool × Cursor)
  | 0, _, _, _ => none
  | fuel + 1, pieces, gap, c =>
    let word := if c.atMark || c.isAt '#' then [] else takeUntil (stops flow) c.rest
    if word.isEmpty then some (pieces.reverse.flatten, gap.any isBreak, c)
    else
      let c := c.move word.length
      let pieces := word :: fold gap :: pieces
      let gap := c.rest.takeWhile isGap
      if gap.isEmpty then some (pieces.reverse.flatten, false, c)
      else if tabIn margin gap then none
      else
        let c := c.move gap.length
        if !flow && c.column < margin then some (pieces.reverse.flatten, gap.any isBreak, c)
        else readFrom flow margin fuel pieces gap c

/-- A plain scalar, in a flow collection or not, whose lines after the first begin at `margin` or
right of it. -/
def read (flow : Bool) (margin : Nat) (c : Cursor) : Option (List Char × Bool × Cursor) :=
  readFrom flow margin (c.rest.length + 1) [] [] c

end Plain

namespace Quoted

/-- The value of a hexadecimal digit. -/
def hexValue? (c : Char) : Option Nat :=
  if '0' ≤ c ∧ c ≤ '9' then some (c.toNat - 0x30)
  else if 'A' ≤ c ∧ c ≤ 'F' then some (c.toNat - 0x37)
  else if 'a' ≤ c ∧ c ≤ 'f' then some (c.toNat - 0x57)
  else none

/-- The character that a character after a backslash stands for. -/
def escape? : Char → Option Char
  | '0' => some '\x00'
  | 'a' => some '\x07'
  | 'b' => some '\x08'
  | 't' => some '\t'
  | '\t' => some '\t'
  | 'n' => some '\n'
  | 'v' => some '\x0b'
  | 'f' => some '\x0c'
  | 'r' => some '\r'
  | 'e' => some '\x1b'
  | ' ' => some ' '
  | '\x22' => some '\x22'
  | '\x27' => some '\x27'
  | '\\' => some '\\'
  | 'N' => some '\u0085'
  | '_' => some '\u00a0'
  | 'L' => some '\u2028'
  | 'P' => some '\u2029'
  | _ => none

/-- How many hexadecimal digits follow a character after a backslash. -/
def digits? : Char → Option Nat
  | 'x' => some 2
  | 'u' => some 4
  | 'U' => some 8
  | _ => none

/-- A run of characters between quotes with no blank in it: what it stands for, how many characters
it has, and whether it ends in a line break after a backslash. -/
structure Word where
  text : List Char
  length : Nat
  joined : Bool := false

/-- The word with a character before it, which was written with `n` characters. -/
def Word.cons (c : Char) (n : Nat) (w : Word) : Word := ⟨c :: w.text, w.length + n, w.joined⟩

/-- The word with `n` more characters before it that stand for nothing. -/
def Word.after (n : Nat) (w : Word) : Word := { w with length := w.length + n }

/-- The word of a single-quoted scalar at the front of a text. -/
def singleWord : List Char → Word
  | '\x27' :: '\x27' :: s => (singleWord s).cons '\x27' 2
  | '\x27' :: _ => ⟨[], 0, false⟩
  | c :: s => if isGap c then ⟨[], 0, false⟩ else (singleWord s).cons c 1
  | [] => ⟨[], 0, false⟩

/-- The word of a double-quoted scalar at the front of a text, where `left` more hexadecimal digits
belong to an escape whose value so far is `value`. -/
def doubleWord (left value : Nat) : List Char → Option Word
  | [] => if left = 0 then some ⟨[], 0, false⟩ else none
  | c :: s =>
    match left with
    | left + 1 =>
      match hexValue? c with
      | none => none
      | some d =>
        let value := value * 16 + d
        if left = 0 then
          if (0xD800 ≤ value ∧ value < 0xE000) ∨ 0x110000 ≤ value then none
          else (doubleWord 0 0 s).map (Word.cons (Char.ofNat value) 1)
        else (doubleWord left value s).map (Word.after 1)
    | 0 =>
      if c = '\x22' ∨ isGap c then some ⟨[], 0, false⟩
      else if c = '\\' then
        match s with
        | [] => none
        | e :: s =>
          if isBreak e then some ⟨[], 2, true⟩
          else
            match escape? e, digits? e with
            | some x, _ => (doubleWord 0 0 s).map (Word.cons x 2)
            | none, some n => (doubleWord n 0 s).map (Word.after 2)
            | none, none => none
      else (doubleWord 0 0 s).map (Word.cons c 1)

/-- The rest of a quoted scalar, given the pieces read so far in reverse. -/
def readFrom (quote : Char) : (fuel : Nat) → (pieces : List (List Char)) → Cursor →
    Option (List Char × Cursor)
  | 0, _, _ => none
  | fuel + 1, pieces, c =>
    if c.atMark || c.rest.isEmpty then none
    else
      match if quote = '\x27' then some (singleWord c.rest) else doubleWord 0 0 c.rest with
      | none => none
      | some word =>
        let c := c.move word.length
        let pieces := word.text :: pieces
        if c.isAt quote then some (pieces.reverse.flatten, c.next)
        else
          let gap := c.rest.takeWhile isGap
          let gapText := if word.joined then gap.filter isBreak else fold gap
          readFrom quote fuel (gapText :: pieces) (c.move gap.length)

/-- The scalar whose opening quote is here. -/
def read (quote : Char) (c : Cursor) : Option (List Char × Cursor) :=
  readFrom quote (c.rest.length + 1) [] c.next

end Quoted

namespace Block

/-- What becomes of the line breaks at the end of a block. -/
inductive Chomp where
  | strip
  | clip
  | keep
deriving DecidableEq

def chomp? : Char → Option Chomp
  | '+' => some .keep
  | '-' => some .strip
  | _ => none

/-- The chomping sign and the indentation digit after a block's indicator, in either order. -/
def header (c : Cursor) : Option (Chomp × Nat × Cursor) :=
  let chompOf (c : Cursor) : Option Chomp := c.rest.head?.bind chomp?
  let digitOf (c : Cursor) : Option Nat :=
    match c.rest with
    | d :: _ => if d.isDigit then some (d.toNat - 0x30) else none
    | [] => none
  match chompOf c, digitOf c with
  | some chomp, _ =>
    match digitOf c.next with
    | some 0 => none
    | some n => some (chomp, n, c.next.next)
    | none => some (chomp, 0, c.next)
  | none, some 0 => none
  | none, some n =>
    match chompOf c.next with
    | some chomp => some (chomp, n, c.next.next)
    | none => some (.clip, n, c.next)
  | none, none => some (.clip, 0, c)

/-- Past indentation and empty lines: the breaks, in reverse, the widest indentation and the place.
An indentation of 0 is not known yet. A tab in the indentation is refused. -/
def breaks (indent : Nat) : (fuel : Nat) → (found : List Char) → (widest : Nat) → Cursor →
    Option (List Char × Nat × Cursor)
  | 0, _, _, _ => none
  | fuel + 1, found, widest, c =>
    let spaces := (c.rest.takeWhile (· == ' ')).length
    let c := c.move (if indent = 0 then spaces else min spaces (indent - c.column))
    let widest := max widest c.column
    if (indent = 0 ∨ c.column < indent) ∧ c.isAt '\t' then none
    else
      match c.rest with
      | x :: _ => if isBreak x then breaks indent fuel (x :: found) widest c.next
                  else some (found, widest, c)
      | [] => some (found, widest, c)

/-- The lines of a block. `first` is the break before the next line, if there is one, and `more` the
breaks of the empty lines after it; `led` tells whether the last line began with a blank. -/
def lines (literal : Bool) (indent : Nat) : (fuel : Nat) → (pieces : List (List Char)) →
    (first more : List Char) → (led : Bool) → Cursor →
      Option (List (List Char) × List Char × List Char × Cursor)
  | 0, _, _, _, _, _ => none
  | fuel + 1, pieces, first, more, led, c =>
    if c.column = indent ∧ !c.rest.isEmpty then
      let blank := (c.rest.head?.map isBlank).getD false
      let joint :=
        if !literal && !led && !blank && first == ['\n'] then (if more.isEmpty then [' '] else [])
        else first
      let line := c.rest.takeWhile fun x => !isBreak x
      let c := c.move line.length
      let first := (c.rest.take 1)
      match breaks indent (c.rest.length + 1) [] 0 c.next with
      | none => none
      | some (found, _, c') =>
        lines literal indent fuel (line :: more :: joint :: pieces) first found.reverse blank c'
    else some (pieces, first, more, c)

/-- The block whose indicator is here, inside block collections that set `margin`. -/
def read (literal : Bool) (margin : Nat) (c : Cursor) : Option (List Char × Cursor) := do
  let (chomp, increment, c) ← header c.next
  let c := c.skipBlanks
  let c := if c.isAt '#' then c.skipLine else c
  guard c.atLineEnd
  let c := c.next
  let given := if increment = 0 then 0 else (margin - 1) + increment
  let (found, widest, c) ← breaks given (c.rest.length + 1) [] 0 c
  let indent := if given = 0 then max (max widest margin) 1 else given
  let (pieces, first, more, c) ←
    lines literal indent (c.rest.length + 1) [] [] found.reverse false c
  let tail :=
    match chomp with
    | .strip => []
    | .clip => first
    | .keep => first ++ more
  pure (pieces.reverse.flatten ++ tail, c)

end Block

end Wordwalk.Settings.Yaml
