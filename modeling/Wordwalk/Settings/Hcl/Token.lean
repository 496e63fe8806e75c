import Wordwalk.Settings.Hcl.Value
import Wordwalk.Text.Blank
import Wordwalk.Text.Identifier

/-! The tokens of an HCL text. Strings and heredocs are templates: between their literal parts stand
sequences of code, in which strings can stand again. -/
namespace Wordwalk.Settings.Hcl

/-- A text to read: its characters, and nothing for each byte that is not UTF-8. -/
abbrev Source := List (Option Char)

inductive Token where
  | word (name : Name)
  /-- A number, and whether it was written with a point. -/
  | number (n : Number) (pointed : Bool)
  | newline
  | mark (text : String)
  | openQuote
  | closeQuote
  /-- The start of a heredoc; of a flush one the lines lose the indentation they share. -/
  | openHeredoc (flush : Bool)
  | closeHeredoc
  | literal (text : List Char)
  /-- The start of a value in a template, and whether white space before it is dropped. -/
  | interpolation (trim : Bool)
  /-- The start of a condition or loop in a template. -/
  | directive (trim : Bool)
  /-- The end of either, and whether white space after it is dropped. -/
  | sequenceEnd (trim : Bool)

/-- What is being read: code, inside a template or not, with so many braces open; a string; or a
heredoc that ends at a line with its marker. -/
inductive Mode where
  | code (inner : Bool) (braces : Nat)
  | quoted
  | heredoc (marker : List Char) (lineStart : Bool)

namespace Lexer

def isNameStart (c : Char) : Bool := c == '_' || Identifier.isStart c.toNat

def isNamePart (c : Char) : Bool := c == '-' || Identifier.isPart c.toNat

/-- The characters at the front of a text that satisfy `p`. -/
def run (p : Char → Bool) : Source → List Char
  | some c :: s => if p c then c :: run p s else []
  | _ => []

/-- The characters of a number after its first digit. -/
def numberRun : Source → List Char
  | some c :: s =>
    if c.isDigit || c == '.' then c :: numberRun s
    else if c == 'e' || c == 'E' then
      match s with
      | some d :: s =>
        if d.isDigit then c :: d :: numberRun s
        else if d == '+' || d == '-' then
          match s with
          | some e :: s => if e.isDigit then c :: d :: e :: numberRun s else []
          | _ => []
        else []
      | _ => []
    else []
  | _ => []

/-- The text after the end of a line, which has a line feed unless the text ends. -/
def afterLine : Source → Bool × Source
  | [] => (false, [])
  | some '\n' :: s => (true, s)
  | _ :: s => afterLine s

/-- The text after the end of a comment of any length. -/
def afterComment : Source → Option Source
  | some '*' :: some '/' :: s => some s
  | _ :: s => afterComment s
  | [] => none

/-- The text after a line end, if one is here. -/
def afterBreak : Source → Option Source
  | some '\n' :: s => some s
  | some '\r' :: some '\n' :: s => some s
  | _ => none

/-- The marker of a heredoc after its two signs, and the text from the next line on. -/
def heredocStart : Source → Option (List Char × Source)
  | some c :: s =>
    if isNameStart c then
      let more := run isNamePart s
      (afterBreak (s.drop more.length)).map fun s => (c :: more, s)
    else none
  | _ => none

/-- The value of a hexadecimal digit. -/
def hexValue? (c : Char) : Option Nat :=
  if '0' ≤ c ∧ c ≤ '9' then some (c.toNat - 0x30)
  else if 'A' ≤ c ∧ c ≤ 'F' then some (c.toNat - 0x37)
  else if 'a' ≤ c ∧ c ≤ 'f' then some (c.toNat - 0x57)
  else none

/-- The character that a letter after a backslash stands for. -/
def escape? : Char → Option Char
  | 'n' => some '\n'
  | 'r' => some '\r'
  | 't' => some '\t'
  | '\x22' => some '\x22'
  | '\\' => some '\\'
  | _ => none

/-- Whether what follows a dollar or percent sign makes it the start of a sequence. -/
def braceAhead : Source → Bool
  | some '\x7b' :: _ => true
  | _ => false

/-- Whether what follows a dollar or percent sign is a second one that takes the meaning from a
brace. -/
def twinAhead (c : Char) : Source → Bool
  | some d :: some '\x7b' :: _ => d == c
  | _ => false

/-- A literal part and the text after it, with one more character before it. -/
def put (c : Char) (r : Option (List Char × Source)) : Option (List Char × Source) :=
  r.map fun (cs, s) => (c :: cs, s)

/-- What an earlier character of a string says of the next ones: so many are digits of an escape, or
stand for themselves. -/
inductive Pending where
  | nothing
  | digits (left value : Nat)
  | plain (left : Nat)

/-- A literal part of a string up to a quote or a sequence. -/
def quotedRun : Pending → Source → Option (List Char × Source)
  | .digits (_ + 1) _, [] => none
  | _, [] => some ([], [])
  | _, none :: _ => none
  | .digits (left + 1) value, some c :: s =>
    match hexValue? c with
    | none => none
    | some d =>
      let value := value * 16 + d
      if left ≠ 0 then quotedRun (.digits left value) s
      else if (0xD800 ≤ value ∧ value < 0xE000) ∨ 0x110000 ≤ value then none
      else put (Char.ofNat value) (quotedRun .nothing s)
  | .plain (left + 1), some c :: s => put c (quotedRun (.plain left) s)
  | _, some c :: s =>
    if c = '\x22' then some ([], some c :: s)
    else if c = '\n' ∨ c = '\r' then none
    else if c = '\\' then
      match s with
      | some 'u' :: s => quotedRun (.digits 4 0) s
      | some 'U' :: s => quotedRun (.digits 8 0) s
      | some e :: s =>
        match escape? e with
        | some x => put x (quotedRun .nothing s)
        | none => none
      | _ => none
    else if c = '$' ∨ c = '%' then
      if braceAhead s then some ([], some c :: s)
      else if twinAhead c s then quotedRun (.plain 2) s
      else put c (quotedRun .nothing s)
    else put c (quotedRun .nothing s)

/-- A literal part of a heredoc: to the end of the line, with its break, or to a sequence. The first
`plain` characters stand for themselves. -/
def heredocRun (plain : Nat) : Source → Option (List Char × Source)
  | [] => some ([], [])
  | none :: _ => none
  | some c :: s =>
    if plain ≠ 0 then put c (heredocRun (plain - 1) s)
    else if c = '\n' then some (['\n'], s)
    else if c = '\r' then
      match s with
      | some '\n' :: s => some (['\r', '\n'], s)
      | _ => none
    else if c = '$' ∨ c = '%' then
      if braceAhead s then some ([], some c :: s)
      else if twinAhead c s then heredocRun 2 s
      else put c (heredocRun 0 s)
    else put c (heredocRun 0 s)

def isWhite (c : Char) : Bool := Wordwalk.isWhite c.toNat

/-- A text without white space at its ends. -/
def trim (cs : List Char) : List Char :=
  ((cs.dropWhile isWhite).reverse.dropWhile isWhite).reverse

/-- The marks of two characters. -/
def pairs : List String := ["==", "!=", ">=", "<=", "&&", "||", "=>", "::"]

/-- The marks of one character, braces apart. -/
def singles : List Char :=
  ['[', ']', '(', ')', '.', ',', '*', '/', '%', '+', '-', '=', '<', '>', '!', '?', ':']

/-- The mark at the front of a text and how long it is. -/
def markAt (c : Char) (s : Source) : Option (String × Nat) :=
  let two := String.ofList (c :: run (fun _ => true) (s.take 1))
  if c = '.' ∧ run (fun _ => true) (s.take 2) = ['.', '.'] then some ("...", 3)
  else if pairs.contains two then some (two, 2)
  else if singles.contains c then some (String.ofList [c], 1)
  else none

/-- The start of a sequence at the front of a text. -/
def sequenceAt : Source → Option (Token × Source)
  | some '$' :: some '\x7b' :: some '~' :: s => some (.interpolation true, s)
  | some '$' :: some '\x7b' :: s => some (.interpolation false, s)
  | some '%' :: some '\x7b' :: some '~' :: s => some (.directive true, s)
  | some '%' :: some '\x7b' :: s => some (.directive false, s)
  | _ => none

/-- The next step in code: the tokens read, the modes after it and the rest of the text. -/
def codeStep (inner : Bool) (braces : Nat) (modes : List Mode) (c : Char) (s : Source) :
    Option (List Token × List Mode × Source) :=
  let here := .code inner braces :: modes
  let other : Option (List Token × List Mode × Source) :=
    if c.isDigit then
      let digits := c :: ((numberRun s).reverse.dropWhile (· == '.')).reverse
      (Number.parse? digits).map fun n =>
        ([.number n (digits.contains '.')], here, s.drop (digits.length - 1))
    else if isNameStart c then
      let more := run isNamePart s
      some ([.word (c :: more)], here, s.drop more.length)
    else
      (markAt c s).map fun (text, n) => ([.mark text], here, s.drop (n - 1))
  let lineComment : Option (List Token × List Mode × Source) :=
    let (broken, s) := afterLine s
    some (if broken then [.newline] else [], here, s)
  let heredoc (flush : Bool) (s : Source) : Option (List Token × List Mode × Source) :=
    match heredocStart s with
    | some (marker, s) => some ([.openHeredoc flush], .heredoc marker true :: here, s)
    | none => other
  match c, s with
  | ' ', s => some ([], here, s)
  | '\t', s => some ([], here, s)
  | '\n', s => some ([.newline], here, s)
  | '\r', some '\n' :: s => some ([.newline], here, s)
  | '#', _ => lineComment
  | '/', some '/' :: _ => lineComment
  | '/', some '*' :: s =>
    match afterComment s with
    | some s => some ([], here, s)
    | none => other
  | '\x22', s => some ([.openQuote], .quoted :: here, s)
  | '<', some '<' :: some '-' :: s => heredoc true s
  | '<', some '<' :: s => heredoc false s
  | '\x7b', s => some ([.mark "\x7b"], .code inner (braces + 1) :: modes, s)
  | '\x7d', s =>
    if inner && braces == 0 then some ([.sequenceEnd false], modes, s)
    else some ([.mark "\x7d"], .code inner (braces - 1) :: modes, s)
  | '~', some '\x7d' :: s =>
    if inner && braces == 0 then some ([.sequenceEnd true], modes, s) else none
  | _, _ => other

/-- The tokens of what is left of a text, after those already read, which are in reverse. Fails
where there is no token. -/
def tokensFrom : (fuel : Nat) → List Token → List Mode → Source → Option (List Token)
  | 0, _, _, _ => none
  | _ + 1, found, _, [] => some found.reverse
  | fuel + 1, found, modes, x :: s =>
    let literal (text : List Char) : List Token := if text.isEmpty then [] else [.literal text]
    match modes with
    | [] => none
    | .code inner braces :: modes =>
      match x with
      | none => none
      | some c =>
        match codeStep inner braces modes c s with
        | none => none
        | some (tokens, modes, s) => tokensFrom fuel (tokens.reverse ++ found) modes s
    | .quoted :: modes =>
      match quotedRun .nothing (x :: s) with
      | none => none
      | some (text, s) =>
        let found := literal text ++ found
        match s, sequenceAt s with
        | some '\x22' :: s, _ => tokensFrom fuel (.closeQuote :: found) modes s
        | _, some (token, s) =>
          tokensFrom fuel (token :: found) (.code true 0 :: .quoted :: modes) s
        | s, none => tokensFrom fuel found (.quoted :: modes) s
    | .heredoc marker lineStart :: modes =>
      match heredocRun 0 (x :: s) with
      | none => none
      | some (text, s) =>
        if text.getLast? = some '\n' then
          if lineStart && trim text == marker then
            tokensFrom fuel (.newline :: .closeHeredoc :: found) modes s
          else tokensFrom fuel (literal text ++ found) (.heredoc marker true :: modes) s
        else
          let found := literal text ++ found
          match sequenceAt s with
          | some (token, s) =>
            tokensFrom fuel (token :: found) (.code true 0 :: .heredoc marker false :: modes) s
          | none => tokensFrom fuel found (.heredoc marker false :: modes) s

/-- The tokens of a text; a byte order mark before it is not read. -/
def tokens (text : Bytes) : Option (List Token) :=
  let text :=
    match text with
    | 0xEF :: 0xBB :: 0xBF :: s => s
    | s => s
  let source : Source :=
    (Rune.decode text).map fun r => if r.isStray then none else some (Char.ofNat r.code)
  tokensFrom (2 * source.length + 2) [] [.code false 0] source

end Lexer
end Wordwalk.Settings.Hcl
