import Wordwalk.Settings.Hcl.Expr
import Wordwalk.Settings.Hcl.Token

/-! The parts of a template and the expression that they make up. -/
namespace Wordwalk.Settings.Hcl

/-- A part of a template, with the conditions and loops in it not yet put together. -/
inductive Part where
  | literal (text : List Char)
  | value (e : Expr)
  | ifPart (condition : Expr)
  | elsePart
  | endIf
  | forPart (keyName : Option Name) (valueName : Name) (source : Expr)
  | endFor

namespace Part

/-- A part after others, which are in reverse, if white space at their end is dropped. -/
def trimEnd : List Part → List Part
  | .literal text :: parts =>
    .literal (text.reverse.dropWhile Lexer.isWhite).reverse :: parts
  | parts => parts

/-- How many characters of white space a line has before its text. A line of white space only does
not count. -/
def indent? (text : List Char) : Option Nat :=
  let spaces := (text.takeWhile Lexer.isWhite).length
  if spaces = text.length ∧ text.getLast? = some '\n' then none else some spaces

/-- The least indentation of the lines that begin in one of the parts. -/
def leastIndent : (lineStart : Bool) → (least : Option Nat) → List Part → Option Nat
  | _, least, [] => least
  | lineStart, least, part :: parts =>
    let lower (n : Nat) : Option Nat := some (min n (least.getD n))
    match part with
    | .literal text =>
      let least :=
        if lineStart then
          match indent? text with
          | some n => lower n
          | none => least
        else least
      leastIndent ((text.getLast? == some '\n')) least parts
    | _ => leastIndent false (if lineStart then lower 0 else least) parts

/-- The parts with `n` characters fewer at the start of each line. -/
def unindent (n : Nat) : (lineStart : Bool) → List Part → List Part
  | _, [] => []
  | lineStart, .literal text :: parts =>
    let cut := if lineStart && (indent? text).isSome then text.drop n else text
    .literal cut :: unindent n (text.getLast? == some '\n') parts
  | _, part :: parts => part :: unindent n false parts

/-- The parts of a flush heredoc: its lines lose the indentation that they share. -/
def flush (parts : List Part) : List Part :=
  match leastIndent true none parts with
  | some n => unindent n true parts
  | none => parts

/-- The parts with literals that stand together made one. -/
def meld : List Part → List Part
  | [] => []
  | .literal s :: parts =>
    match meld parts with
    | .literal t :: parts => .literal (s ++ t) :: parts
    | parts => .literal s :: parts
  | part :: parts => part :: meld parts

/-- What a branch or a loop gives; an empty one gives the empty text. -/
def block (es : List Expr) : Expr := .template (if es.isEmpty then [Expr.text []] else es)

/-- The expressions of the parts up to an end or a turn that belongs to what is around them, and the
parts from there. -/
def build : (fuel : Nat) → List Part → Option (List Expr × List Part)
  | 0, _ => none
  | _ + 1, [] => some ([], [])
  | fuel + 1, part :: parts => do
    match part with
    | .literal text => do
      let (es, rest) ← build fuel parts
      pure (Expr.text text :: es, rest)
    | .value e => do
      let (es, rest) ← build fuel parts
      pure (e :: es, rest)
    | .ifPart condition => do
      let (yes, rest) ← build fuel parts
      let (no, rest) ←
        match rest with
        | .elsePart :: rest => build fuel rest
        | rest => some ([], rest)
      match rest with
      | .endIf :: rest => do
        let (es, rest) ← build fuel rest
        pure (.conditional condition (block yes) (block no) :: es, rest)
      | _ => none
    | .forPart keyName valueName source => do
      let (body, rest) ← build fuel parts
      match rest with
      | .endFor :: rest => do
        let (es, rest) ← build fuel rest
        let loop := Expr.forTuple keyName valueName source (block body) (.literal (.bool true))
        pure (.join loop :: es, rest)
      | _ => none
    | part => pure ([], part :: parts)

/-- The expression of a whole template. A template of a single value is that value. -/
def template? (parts : List Part) : Option Expr :=
  match meld parts with
  | [] => some (.template [Expr.text []])
  | [.value e] => some (.enclosed e)
  | parts =>
    match build (2 * parts.length + 2) parts with
    | some (es, []) => some (.template es)
    | _ => none

end Part
end Wordwalk.Settings.Hcl
