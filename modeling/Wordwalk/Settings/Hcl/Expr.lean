import Wordwalk.Settings.Hcl.Value

/-! Expressions of HCL. -/
namespace Wordwalk.Settings.Hcl

inductive Operator where
  | or
  | and
  | equal
  | unequal
  | greater
  | greaterEqual
  | less
  | lessEqual
  | add
  | subtract
  | multiply
  | divide
  | remainder

inductive Expr where
  | literal (v : Value)
  | reference (name : Name)
  /-- An expression in parentheses, or one that is all of a template. -/
  | enclosed (e : Expr)
  /-- The element that a splat is applied to. -/
  | item
  | field (e : Expr) (name : Name)
  /-- An index; it is fixed if it was written as a number, a keyword or a plain string. -/
  | index (e key : Expr) (fixed : Bool)
  /-- An expression for each element of another, or for the other itself if it is no list. -/
  | splat (e each : Expr)
  /-- What can be written but has no value, such as a call: there are no functions. -/
  | invalid
  | conditional (condition yes no : Expr)
  | binary (op : Operator) (left right : Expr)
  | negate (e : Expr)
  | not (e : Expr)
  | tuple (items : List Expr)
  | object (fields : List (Expr × Expr))
  | forTuple (keyName : Option Name) (valueName : Name) (source value condition : Expr)
  | forObject (keyName : Option Name) (valueName : Name) (source key value : Expr) (grouped : Bool)
      (condition : Expr)
  | template (parts : List Expr)
  /-- The texts of a tuple one after the other. -/
  | join (items : Expr)

namespace Expr

def text (s : List Char) : Expr := .literal (Value.text s)

/-- Whether the expression was written as a number, a keyword or a plain string. -/
def isFixed : Expr → Bool
  | .literal _ => true
  | .template [.literal _] => true
  | _ => false

/-- Whether the expression is a variable with steps after it. -/
def isPath : Expr → Bool
  | .field (.reference _) _ => true
  | .field e _ => isPath e
  | .index (.reference _) _ fixed => fixed
  | .index e _ fixed => fixed && isPath e
  | _ => false

/-- The key of an object's field: a name stands for itself, and a variable with steps after it has
no meaning, unless it is in parentheses. -/
def asKey (parenthesized : Bool) (e : Expr) : Expr :=
  if parenthesized then e
  else if e.isPath then .invalid
  else
    match e with
    | .reference name => text name
    | .literal (.bool true) => text "true".toList
    | .literal (.bool false) => text "false".toList
    | .literal (.null _) => text "null".toList
    | e => e

end Expr

/-- The arguments of a body, and whether there are blocks in it. -/
structure Body where
  arguments : List (Name × Expr) := []
  hasBlocks : Bool := false

end Wordwalk.Settings.Hcl
