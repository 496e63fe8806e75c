import Wordwalk.Settings.Yaml.Token

/-! The tokens of a YAML text in order. Block collections show only in the columns of the text, and
a key only in the colon after it, so their tokens are put in where they turn out to have begun. -/
namespace Wordwalk.Settings.Yaml

/-- A token that would be a key if a colon followed it. -/
structure Candidate where
  /-- Whether nothing but a key can stand at this place. -/
  required : Bool
  /-- How many tokens come before it. -/
  position : Nat
  line : Nat
  column : Nat
  offset : Nat

/-- How far a text has been read, and what was found. -/
structure Scan where
  cursor : Cursor
  /-- The tokens found, the last first. -/
  tokens : List Token := []
  count : Nat := 0
  /-- For each open block collection, the innermost first, one more than its column. -/
  blocks : List Nat := []
  keyAllowed : Bool := true
  key : Option Candidate := none
  /-- The candidates outside of each open flow collection. -/
  outer : List (Option Candidate) := []
  ended : Bool := false

namespace Scan

/-- Whether a flow collection is open. -/
def flow (s : Scan) : Bool := !s.outer.isEmpty

/-- The least column at which the innermost block collection goes on inside an item. -/
def margin (s : Scan) : Nat := s.blocks.head?.getD 0

def emit (t : Token) (s : Scan) : Scan := { s with tokens := t :: s.tokens, count := s.count + 1 }

/-- Put a token in after the first `position` ones. -/
def insert (position : Nat) (t : Token) (s : Scan) : Scan :=
  let later := s.count - position
  { s with tokens := s.tokens.take later ++ t :: s.tokens.drop later, count := s.count + 1 }

/-- End the block collections that have their margin right of `least`. -/
def unroll (least : Nat) (s : Scan) : Scan :=
  if s.flow then s
  else
    let n := (s.blocks.takeWhile (least < ·)).length
    { s with
      blocks := s.blocks.drop n
      tokens := List.replicate n .blockEnd ++ s.tokens
      count := s.count + n }

/-- Begin a block collection at a column, with its token after the first `position` ones, unless it
goes on there. -/
def roll (column position : Nat) (t : Token) (s : Scan) : Scan :=
  if s.flow || column + 1 ≤ s.margin then s
  else { s.insert position t with blocks := (column + 1) :: s.blocks }

/-- Give up the candidate; fails if it had to be a key. -/
def dropKey (s : Scan) : Option Scan :=
  match s.key with
  | some k => if k.required then none else some { s with key := none }
  | none => some s

/-- Make the token about to be read the candidate, where a key is allowed. -/
def saveKey (s : Scan) : Option Scan :=
  if s.keyAllowed then
    s.dropKey.map fun s =>
      let c := s.cursor
      { s with
        key := some {
          required := !s.flow && s.margin == c.column + 1
          position := s.count
          line := c.line
          column := c.column
          offset := c.offset } }
  else some s

/-- Emit a token of `n` characters. -/
def take (n : Nat) (t : Token) (s : Scan) : Scan := { s.emit t with cursor := s.cursor.move n }

/-- Past blanks, comments and line breaks. A tab is no indentation: where a key is allowed in a
block, it is not skipped. -/
def skipGap : (fuel : Nat) → Scan → Scan
  | 0, s => s
  | fuel + 1, s =>
    let c := s.cursor
    let c := if c.column = 0 && c.isAt '\ufeff' then c.next else c
    let c := c.skipWhile fun x => x == ' ' || ((s.flow || !s.keyAllowed) && x == '\t')
    let c := if c.isAt '#' then c.skipComments (c.rest.length + 1) else c
    match c.rest with
    | x :: _ =>
      if isBreak x then
        skipGap fuel { s with cursor := c.next, keyAllowed := s.keyAllowed || !s.flow }
      else { s with cursor := c }
    | [] => { s with cursor := c }

def openFlow (t : Token) (s : Scan) : Option Scan :=
  s.saveKey.map fun s =>
    { s.take 1 t with key := none, outer := s.key :: s.outer, keyAllowed := true }

def closeFlow (t : Token) (s : Scan) : Option Scan :=
  s.dropKey.map fun s =>
    { s.take 1 t with
      key := (s.outer.head?.getD s.key)
      outer := s.outer.tail
      keyAllowed := false }

/-- An item of a block sequence or, with a question mark, a key of any kind. -/
def mark (t collection : Token) (allowed : Bool) (s : Scan) : Option Scan :=
  if !s.flow && !s.keyAllowed then none
  else
    (s.roll s.cursor.column s.count collection).dropKey.map fun s =>
      { s.take 1 t with keyAllowed := allowed }

/-- A colon: the candidate before it is a key, if it is on this line and within 1024 characters. -/
def colon (s : Scan) : Option Scan :=
  let plain (s : Scan) : Option Scan :=
    if !s.flow && !s.keyAllowed then none
    else
      let s := s.roll s.cursor.column s.count .blockMapping
      some { s.take 1 .value with keyAllowed := !s.flow }
  match s.key with
  | none => plain s
  | some k =>
    if k.line < s.cursor.line || k.offset + 1024 < s.cursor.offset then
      if k.required then none else plain { s with key := none }
    else
      let s := (s.insert k.position .key).roll k.column k.position .blockMapping
      some { s.take 1 .value with key := none, keyAllowed := false }

/-- A token that can be a key, read by `read`. -/
def keyLike (read : Cursor → Option (Token × Cursor)) (s : Scan) : Option Scan := do
  let s ← s.saveKey
  let (t, c) ← read s.cursor
  pure { s.emit t with cursor := c, keyAllowed := false }

def plain (s : Scan) : Option Scan := do
  let s ← s.saveKey
  let (text, broken, c) ← Plain.read s.flow s.margin s.cursor
  pure { s.emit (.scalar true text) with cursor := c, keyAllowed := broken }

def block (literal : Bool) (s : Scan) : Option Scan := do
  let s ← s.dropKey
  let (text, c) ← Block.read literal s.margin s.cursor
  pure { s.emit (.scalar false text) with cursor := c, keyAllowed := true }

/-- The characters that begin something other than a plain scalar. -/
def indicators : List Char :=
  [',', '[', ']', '\x7b', '\x7d', '#', '&', '*', '!', '|', '>', '\x27', '\x22', '%', '@', '\x60']

/-- Whether a plain scalar can begin with `x` before `rest`. -/
def plainStart (flow : Bool) (x : Char) (rest : List Char) : Bool :=
  match x with
  | '-' => !(rest.head?.map isBlank).getD false
  | '?' | ':' => !flow && !gapAhead rest
  | _ => !isGap x && !indicators.contains x

/-- The token that begins with `x` before `rest`. -/
def token (x : Char) (rest : List Char) (s : Scan) : Option Scan :=
  match x with
  | '[' => s.openFlow .flowSequence
  | '\x7b' => s.openFlow .flowMapping
  | ']' => s.closeFlow .flowSequenceEnd
  | '\x7d' => s.closeFlow .flowMappingEnd
  | ',' => s.dropKey.map fun s => { s.take 1 .comma with keyAllowed := true }
  | '*' => s.keyLike fun c => (Token.readName c).map fun (name, c) => (.reference name, c)
  | '&' => s.keyLike fun c => (Token.readName c).map fun (name, c) => (.anchor name, c)
  | '!' => s.keyLike Token.readTag
  | '\x27' => s.keyLike fun c => (Quoted.read x c).map fun (text, c) => (.scalar false text, c)
  | '\x22' => s.keyLike fun c => (Quoted.read x c).map fun (text, c) => (.scalar false text, c)
  | _ =>
    if x = '-' ∧ gapAhead rest then s.mark .entry .blockSequence true
    else if x = '?' ∧ (s.flow || gapAhead rest) then s.mark .key .blockMapping !s.flow
    else if x = ':' ∧ (s.flow || gapAhead rest) then s.colon
    else if (x = '|' ∨ x = '>') ∧ !s.flow then s.block (x == '|')
    else if plainStart s.flow x rest then s.plain
    else none

/-- The end of the text, or a line that no block collection reaches across. -/
def boundary (s : Scan) : Option Scan :=
  (s.unroll 0).dropKey.map fun s => { s with keyAllowed := false }

/-- Past a comment on the same line, except after the hyphen of a sequence's item. -/
def skipLineComment (s : Scan) : Scan :=
  match s.tokens with
  | .entry :: _ => s
  | _ => { s with cursor := s.cursor.skipLineComment }

/-- The scan with the next token read. -/
def step (s : Scan) : Option Scan :=
  let s := s.skipGap (s.cursor.rest.length + 1)
  let s := s.unroll (s.cursor.column + 1)
  let c := s.cursor
  match c.rest with
  | [] => s.boundary.map fun s => { s.emit .streamEnd with ended := true }
  | x :: rest =>
    if c.column = 0 ∧ x = '%' then do
      let s ← s.boundary
      let (t, c) ← Token.readDirective s.cursor
      pure { s.emit t with cursor := c }
    else if c.atMark then
      s.boundary.map (take 3 (if x = '-' then .documentStart else .documentEnd))
    else (s.token x rest).map skipLineComment

/-- The scan to the end, or to where a step fails. -/
def run : (fuel : Nat) → Scan → Scan
  | 0, s => s
  | fuel + 1, s =>
    if s.ended then s
    else
      match s.step with
      | none => s
      | some s => run fuel s

/-- The tokens of a text up to its end, or to what cannot be read, and whether the end was
reached. -/
def tokensOf (text : List Char) : List Token × Bool :=
  let s := run (text.length + 2) { cursor := { rest := text } }
  (s.tokens.reverse, s.ended)

end Scan
end Wordwalk.Settings.Yaml
