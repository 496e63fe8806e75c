import Wordwalk.Settings.Yaml.Scalar

/-! The tokens of a YAML text, and those of them that are written as a word of their own: anchors,
aliases, tags and directives. -/
namespace Wordwalk.Settings.Yaml

inductive Token where
  | streamEnd
  | version (major minor : Nat)
  | abbreviation (handle expansion : List Char)
  | documentStart
  | documentEnd
  | blockSequence
  | blockMapping
  | blockEnd
  | flowSequence
  | flowSequenceEnd
  | flowMapping
  | flowMappingEnd
  | entry
  | comma
  | key
  | value
  | reference (name : List Char)
  | anchor (name : List Char)
  | tag (handle suffix : List Char)
  | scalar (plain : Bool) (text : List Char)

namespace Token

/-- The name after a `&` or `*`, and the place after it. -/
def readName (c : Cursor) : Option (List Char × Cursor) :=
  let name := c.next.rest.takeWhile isWord
  let after := c.next.move name.length
  let ends := gapAhead after.rest ||
    (after.rest.head?.map ['?', ':', ',', ']', '\x7d', '%', '@', '\x60'].contains).getD false
  if name.isEmpty || !ends then none else some (name, after)

/-- A character of a tag. -/
def isTagChar (c : Char) : Bool :=
  isWord c || [';', '/', '?', ':', '@', '&', '=', '+', '$', ',', '.', '!', '~', '*', '\x27', '(',
    ')', '[', ']'].contains c

/-- How many more octets follow the first one of an encoded character. -/
def following? (octet : Nat) : Option Nat :=
  if octet < 0x80 then some 0
  else if octet / 32 = 6 then some 1
  else if octet / 16 = 14 then some 2
  else if octet / 8 = 30 then some 3
  else none

/-- The characters of a tag at the front of a text and how many characters they are written with. An
octet can be written as `%` and two digits; `left` more of those have to follow. -/
def tagChars (left : Nat) : List Char → Option (List Char × Nat)
  | [] => if left = 0 then some ([], 0) else none
  | '%' :: a :: b :: s =>
    match Quoted.hexValue? a, Quoted.hexValue? b with
    | some a, some b =>
      let octet := a * 16 + b
      let more? :=
        if left = 0 then following? octet else if octet / 64 = 2 then some (left - 1) else none
      more?.bind fun more =>
        (tagChars more s).map fun (cs, n) => (Char.ofNat octet :: cs, n + 3)
    | _, _ => none
  | c :: s =>
    if left ≠ 0 ∨ c = '%' then none
    else if isTagChar c then (tagChars 0 s).map fun (cs, n) => (c :: cs, n + 1)
    else some ([], 0)

/-- The handle of a tag: an exclamation mark, and a word and a second mark if they follow. -/
def handleAt (c : Cursor) : List Char :=
  match c.rest with
  | '!' :: s =>
    let word := s.takeWhile isWord
    '!' :: word ++ if (s.drop word.length).head? = some '!' then ['!'] else []
  | _ => []

/-- The tag whose exclamation mark is here, and the place after it. -/
def readTag (c : Cursor) : Option (Token × Cursor) := do
  let (token, after) ←
    match c.rest with
    | _ :: '<' :: s => do
      let (suffix, n) ← tagChars 0 s
      let after := c.move (n + 2)
      guard (!suffix.isEmpty && after.isAt '>')
      pure (Token.tag [] suffix, after.next)
    | _ => do
      let handle := handleAt c
      let (suffix, n) ← tagChars 0 (c.rest.drop handle.length)
      let after := c.move (handle.length + n)
      if handle.length > 1 && handle.getLast? = some '!' then do
        guard (!suffix.isEmpty)
        pure (Token.tag handle suffix, after)
      else
        match handle.drop 1 ++ suffix with
        | [] => pure (Token.tag [] ['!'], after)
        | suffix => pure (Token.tag ['!'] suffix, after)
  guard (gapAhead after.rest)
  pure (token, after)

/-- A number of one or two digits, and the place after it. -/
def readNumber (c : Cursor) : Option (Nat × Cursor) :=
  let digits := c.rest.takeWhile Char.isDigit
  if digits.isEmpty || digits.length > 2 then none
  else some (digits.foldl (fun n d => n * 10 + (d.toNat - 0x30)) 0, c.move digits.length)

/-- The directive whose percent sign is here, and the place at the start of the next line. -/
def readDirective (c : Cursor) : Option (Token × Cursor) := do
  let name := c.next.rest.takeWhile isWord
  let c := c.next.move name.length
  guard (gapAhead c.rest)
  let c := c.skipBlanks
  let (token, c) ←
    if name = "YAML".toList then do
      let (major, c) ← readNumber c
      guard (c.isAt '.')
      let (minor, c) ← readNumber c.next
      pure (Token.version major minor, c)
    else if name = "TAG".toList then do
      let handle := handleAt c
      guard (!handle.isEmpty && handle.getLast? = some '!')
      let c := c.move handle.length
      guard ((c.rest.head?.map isBlank).getD false)
      let c := c.skipBlanks
      let (expansion, n) ← tagChars 0 c.rest
      let c := c.move n
      guard (!expansion.isEmpty && gapAhead c.rest)
      pure (Token.abbreviation handle expansion, c)
    else none
  let c := c.skipBlanks
  let c := if c.isAt '#' then c.skipLine else c
  guard c.atLineEnd
  pure (token, c.next)

end Token
end Wordwalk.Settings.Yaml
