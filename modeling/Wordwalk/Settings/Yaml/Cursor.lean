import Wordwalk.Settings.Yaml.Characters

/-! A place in a YAML text, and the runs of characters that can be read from it. -/
namespace Wordwalk.Settings.Yaml

/-- A place in a text: what is left, and where it stands. -/
structure Cursor where
  rest : List Char
  line : Nat := 0
  column : Nat := 0
  offset : Nat := 0
  /-- Whether a line break has been passed with only blanks after it. -/
  fresh : Bool := false

namespace Cursor

/-- One character on. -/
def next (c : Cursor) : Cursor :=
  match c.rest with
  | [] => c
  | x :: rest =>
    if isBreak x then ⟨rest, c.line + 1, 0, c.offset + 1, true⟩
    else ⟨rest, c.line, c.column + 1, c.offset + 1, c.fresh && isBlank x⟩

/-- So many characters on. -/
def move : Nat → Cursor → Cursor
  | 0, c => c
  | n + 1, c => move n c.next

/-- Past the characters that satisfy `p`. -/
def skipWhile (p : Char → Bool) (c : Cursor) : Cursor := c.move (c.rest.takeWhile p).length

/-- Past spaces and tabs. -/
def skipBlanks (c : Cursor) : Cursor := c.skipWhile isBlank

/-- To the end of the line. -/
def skipLine (c : Cursor) : Cursor := c.skipWhile fun x => !isBreak x

/-- Whether the place is at the end of a line or of the text. -/
def atLineEnd (c : Cursor) : Bool :=
  match c.rest with
  | [] => true
  | x :: _ => isBreak x

/-- Whether the next character is `x`. -/
def isAt (c : Cursor) (x : Char) : Bool := c.rest.head? == some x

/-- Whether a mark between documents stands here. -/
def atMark (c : Cursor) : Bool := c.column == 0 && markAhead c.rest

/-- From a `#`: past the comment and all comments after it that only blank lines divide from it. A
comment further than 511 characters ahead is not looked for. -/
def skipComments : (fuel : Nat) → Cursor → Cursor
  | 0, c => c
  | fuel + 1, c =>
    let c := c.skipLine
    let gap := ((c.rest.take 512).drop 1).takeWhile isGap
    match ((c.rest.take 512).drop 1).drop gap.length with
    | '#' :: _ => skipComments fuel (c.move (gap.length + 1))
    | _ => c

/-- Past a comment on the line of the token that was just read. -/
def skipLineComment (c : Cursor) : Cursor :=
  if c.fresh then c
  else
    match (c.rest.take 512).dropWhile isBlank with
    | '#' :: _ => c.skipLine
    | _ => c

end Cursor

/-- The characters of a text up to where what is left of it satisfies `stop`. -/
def takeUntil (stop : List Char → Bool) : List Char → List Char
  | [] => []
  | c :: s => if stop (c :: s) then [] else c :: takeUntil stop s

end Wordwalk.Settings.Yaml
