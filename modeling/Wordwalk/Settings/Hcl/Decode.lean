import Wordwalk.Settings.Basic
import Wordwalk.Settings.Hcl.Eval
import Wordwalk.Settings.Hcl.Grammar

/-! Settings in HCL: two arguments, each of which can be left out. -/
namespace Wordwalk.Settings.Hcl

/-- The names that stand for white space in expressions. -/
def whiteSpace : List (Name × Value) :=
  [("space".toList, .string [' ']), ("tab".toList, .string ['\t']),
    ("newline".toList, .string ['\n'])]

/-- The value of an expression as one of a type, if there is no fault in it. -/
def valueOf (t : Ty) (e : Expr) : Option Value :=
  let o := e.eval { names := whiteSpace }
  if o.failed then none else o.value.as? t

/-- The UTF-8 bytes of a text; null is none. -/
def bytesOf? : Value → Option Bytes
  | .string s => some (Bytes.ofCodes (s.map Char.toNat))
  | _ => none

/-- The text that an expression gives. -/
def separatorOf (e : Expr) : Option Bytes := (valueOf .string e).bind bytesOf?

/-- The texts that an expression gives; null is no text. -/
def patternsOf (e : Expr) : Option (List Bytes) :=
  match valueOf (.list .string) e with
  | some (.null _) => some []
  | some (.list _ items) => items.mapM bytesOf?
  | _ => none

/-- The settings that a body gives. -/
def Body.settings? (b : Body) : Option Settings := do
  guard (!b.hasBlocks)
  b.arguments.foldlM (fun (s : Settings) (n, e) =>
    if n = "ignore".toList then (patternsOf e).map fun ps => { s with ignore := ps }
    else if n = "separator".toList then (separatorOf e).map fun t => { s with separator := t }
    else none) {}

/-- The settings that an HCL text gives. -/
def parse (text : Bytes) : Except Fault Settings :=
  match Grammar.read? text with
  | none => .error (.unreadable .hcl)
  | some body =>
    match body.settings? with
    | none => .error .undecodable
    | some settings => .ok settings

end Wordwalk.Settings.Hcl
