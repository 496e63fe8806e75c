import Wordwalk.Settings.Hcl.Number
import Wordwalk.Text.Canonical

/-! Values of HCL expressions and their types. A value can be unknown: an expression that fails
still has a type, and a condition is tried out before the variables in it have values. -/
namespace Wordwalk.Settings.Hcl

/-- The name of a variable or of an attribute. -/
abbrev Name := List Char

inductive Ty where
  /-- The type of what has no type yet. -/
  | dynamic
  | bool
  | number
  | string
  | tuple (items : List Ty)
  | object (fields : List (Name × Ty))
  | list (item : Ty)
  | map (item : Ty)

/-- A value. The fields of objects and maps are in the order of their names, each once. -/
inductive Value where
  | unknown (type : Ty)
  | null (type : Ty)
  | bool (b : Bool)
  | number (n : Number)
  | string (s : List Char)
  | tuple (items : List Value)
  | object (fields : List (Name × Value))
  | list (type : Ty) (items : List Value)
  | map (type : Ty) (fields : List (Name × Value))

namespace Ty

mutual

/-- Whether two types are the same. -/
def same : Ty → Ty → Bool
  | .dynamic, .dynamic => true
  | .bool, .bool => true
  | .number, .number => true
  | .string, .string => true
  | .tuple s, .tuple t => sameAll s t
  | .object s, .object t => sameFields s t
  | .list s, .list t => same s t
  | .map s, .map t => same s t
  | _, _ => false

def sameAll : List Ty → List Ty → Bool
  | [], [] => true
  | s :: ss, t :: ts => same s t && sameAll ss ts
  | _, _ => false

def sameFields : List (Name × Ty) → List (Name × Ty) → Bool
  | [], [] => true
  | (n, s) :: ss, (m, t) :: ts => n == m && same s t && sameFields ss ts
  | _, _ => false

end

mutual

/-- Whether the type holds a part that has no type yet. -/
def isOpen : Ty → Bool
  | .dynamic => true
  | .tuple items => anyOpen items
  | .object fields => anyOpenField fields
  | .list item => isOpen item
  | .map item => isOpen item
  | _ => false

def anyOpen : List Ty → Bool
  | [] => false
  | t :: ts => isOpen t || anyOpen ts

def anyOpenField : List (Name × Ty) → Bool
  | [] => false
  | (_, t) :: ts => isOpen t || anyOpenField ts

end

/-- Whether a value of the first type can be made one of the second; whether it succeeds can still
hang on the value. `fuel` bounds how deep the types are looked into. -/
def converts : (fuel : Nat) → Ty → Ty → Bool
  | 0, _, _ => false
  | fuel + 1, s, t =>
    same s t ||
    match s, t with
    | _, .dynamic => true
    | .dynamic, _ => true
    | .number, .string => true
    | .bool, .string => true
    | .string, .number => true
    | .string, .bool => true
    | .tuple ss, .tuple ts =>
      ss.length == ts.length && (ss.zip ts).all fun (s, t) => converts fuel s t
    | .tuple ss, .list t => ss.all fun s => converts fuel s t
    | .list s, .list t => converts fuel s t
    | .object ss, .object ts =>
      ts.all fun (n, t) =>
        match ss.lookup n with
        | some s => converts fuel s t
        | none => false
    | .object ss, .map t => ss.all fun (_, s) => converts fuel s t
    | .map s, .map t => converts fuel s t
    | .map s, .object ts => ts.all fun (_, t) => converts fuel s t
    | _, _ => false

mutual

/-- How deep a type is. -/
def depth : Ty → Nat
  | .tuple items => depthAll items + 1
  | .object fields => depthFields fields + 1
  | .list item => depth item + 1
  | .map item => depth item + 1
  | _ => 1

def depthAll : List Ty → Nat
  | [] => 0
  | t :: ts => max (depth t) (depthAll ts)

def depthFields : List (Name × Ty) → Nat
  | [] => 0
  | (_, t) :: ts => max (depth t) (depthFields ts)

end

/-- The first of the types that all others convert to; text before other types, and what has no type
yet last. -/
def firstTarget (types : List Ty) : Option Ty :=
  let rank (t : Ty) : Nat :=
    match t with
    | .string => 0
    | .dynamic => 2
    | _ => 1
  let byRank := [0, 1, 2].flatMap fun r => types.filter fun t => rank t == r
  byRank.find? fun t => types.all fun s => converts (max (depth s) (depth t) + 1) s t

/-- What kind of collection a type is. -/
inductive Shape where
  | other
  | dynamic
  | tuple
  | object
  | list
  | map
deriving DecidableEq

def shape : Ty → Shape
  | .dynamic => .dynamic
  | .tuple _ => .tuple
  | .object _ => .object
  | .list _ => .list
  | .map _ => .map
  | _ => .other

/-- The types of the items of a tuple or list. -/
def itemTypes : Ty → List Ty
  | .tuple items => items
  | .list item => [item]
  | _ => []

/-- The fields of an object. -/
def fields : Ty → List (Name × Ty)
  | .object fields => fields
  | _ => []

/-- The types of the fields of an object or map. -/
def fieldTypes : Ty → List Ty
  | .object fields => fields.map (·.2)
  | .map item => [item]
  | _ => []

/-- A type that values of all the types can be made. Tuples of one length stay tuples and objects of
the same names stay objects; others become lists and maps. -/
def unify : (fuel : Nat) → List Ty → Option Ty
  | 0, _ => none
  | fuel + 1, types =>
    let shapes := types.map shape
    let only (allowed : List Shape) : Bool := shapes.all allowed.contains
    let hasOpen := shapes.contains .dynamic
    let asList : Option Ty := (unify fuel (types.flatMap itemTypes)).map .list
    let asMap : Option Ty := (unify fuel (types.flatMap fieldTypes)).map .map
    if shapes.contains .map ∧ only [.map, .dynamic] then
      if hasOpen then some .dynamic else asMap
    else if shapes.contains .list ∧ only [.list, .dynamic] then
      if hasOpen then some .dynamic else asList
    else if shapes.contains .map ∧ only [.map, .object] then
      asMap.orElse fun _ => firstTarget types
    else if shapes.contains .list ∧ only [.list, .tuple] then
      asList.orElse fun _ => firstTarget types
    else if shapes.contains .object ∧ only [.object, .dynamic] then
      if hasOpen then some .dynamic
      else
        let fields := types.map fields
        match fields with
        | [] => none
        | first :: more =>
          if more.all fun fs => fs.map (·.1) == first.map (·.1) then
            (first.mapM fun (f : Name × Ty) =>
              (unify fuel (fields.filterMap (List.lookup f.1))).map (f.1, ·)).map .object
          else asMap
    else if shapes.contains .tuple ∧ only [.tuple, .dynamic] then
      if hasOpen then some .dynamic
      else
        let items := types.map itemTypes
        match items with
        | [] => none
        | first :: more =>
          if more.all fun ts => ts.length == first.length then
            ((List.range first.length).mapM fun i =>
              unify fuel (items.filterMap fun ts => ts[i]?)).map .tuple
          else asList
    else if shapes.contains .object ∧ shapes.contains .tuple then none
    else firstTarget types

end Ty

namespace Value

mutual

def type : Value → Ty
  | .unknown t => t
  | .null t => t
  | .bool _ => .bool
  | .number _ => .number
  | .string _ => .string
  | .tuple items => .tuple (types items)
  | .object fields => .object (fieldTypes fields)
  | .list t _ => .list t
  | .map t _ => .map t

def types : List Value → List Ty
  | [] => []
  | v :: vs => type v :: types vs

def fieldTypes : List (Name × Value) → List (Name × Ty)
  | [] => []
  | (n, v) :: vs => (n, type v) :: fieldTypes vs

end

/-- A text in its canonical form. -/
def text (s : List Char) : Value := .string (Canonical.form s)

def isNull : Value → Bool
  | .null _ => true
  | _ => false

def isUnknown : Value → Bool
  | .unknown _ => true
  | _ => false

/-- What has no type yet. -/
def untyped : Value := .unknown .dynamic

/-- Put a field in by its name, in place of one of the same name. -/
def putField (n : Name) (v : Value) : List (Name × Value) → List (Name × Value)
  | [] => [(n, v)]
  | (m, w) :: fields =>
    if n = m then (n, v) :: fields
    else if n < m then (n, v) :: (m, w) :: fields
    else (m, w) :: putField n v fields

/-- The value made one of another type. -/
def convert : (fuel : Nat) → Value → Ty → Option Value
  | 0, _, _ => none
  | fuel + 1, v, t =>
    if v.type.same t then some v
    else if !Ty.converts (max v.type.depth t.depth + 1) v.type t then none
    else
      match v, t with
      | v, .dynamic => some v
      | .unknown _, t => some (.unknown t)
      | .null _, t => some (.null t)
      | .number n, .string => some (.string n.text)
      | .bool b, .string => some (.string (if b then "true".toList else "false".toList))
      | .string s, .number => (Number.parse? s).map .number
      | .string s, .bool =>
        if s = "true".toList ∨ s = ['1'] then some (.bool true)
        else if s = "false".toList ∨ s = ['0'] then some (.bool false)
        else none
      | .tuple vs, .tuple ts => ((vs.zip ts).mapM fun (v, t) => convert fuel v t).map .tuple
      | .tuple vs, .list t => (vs.mapM fun v => convert fuel v t).map (.list t)
      | .list _ vs, .list t => (vs.mapM fun v => convert fuel v t).map (.list t)
      | .object fs, .object ts =>
        (ts.mapM fun (f : Name × Ty) =>
          (fs.lookup f.1).bind fun v => (convert fuel v f.2).map (f.1, ·)).map .object
      | .map _ fs, .object ts =>
        (ts.mapM fun (f : Name × Ty) =>
          (fs.lookup f.1).bind fun v => (convert fuel v f.2).map (f.1, ·)).map .object
      | .object fs, .map t =>
        (fs.mapM fun (f : Name × Value) => (convert fuel f.2 t).map (f.1, ·)).map (.map t)
      | .map _ fs, .map t =>
        (fs.mapM fun (f : Name × Value) => (convert fuel f.2 t).map (f.1, ·)).map (.map t)
      | _, _ => none

/-- The value as one of a type, if there is such a one. -/
def as? (v : Value) (t : Ty) : Option Value := v.convert (v.type.depth + t.depth + 1) t

/-- The text that the value is written as in a string. -/
def asText? (v : Value) : Option (List Char) :=
  match v.as? .string with
  | some (.string s) => some s
  | _ => none

/-- The values with their keys that are passed through in turn, if the value has such. -/
def elements? : Value → Option (List (Value × Value))
  | .tuple vs => some (vs.mapIdx fun i v => (.number (Number.ofNat i), v))
  | .list _ vs => some (vs.mapIdx fun i v => (.number (Number.ofNat i), v))
  | .object fs => some (fs.map fun (n, v) => (text n, v))
  | .map _ fs => some (fs.map fun (n, v) => (text n, v))
  | _ => none

mutual

/-- Whether two values are equal; none if that is not known. Values of different types are not, but
all nulls are. -/
def equal? : Value → Value → Option Bool
  | .unknown s, v =>
    match v with
    | .unknown _ => none
    | .null _ => none
    | v => if s.isOpen || s.same v.type then none else some false
  | .null _, v =>
    match v with
    | .unknown _ => none
    | .null _ => some true
    | _ => some false
  | .bool a, v =>
    match v with
    | .bool b => some (a == b)
    | v => unlike .bool v
  | .number a, v =>
    match v with
    | .number b => some (a.compare b == .eq)
    | v => unlike .number v
  | .string a, v =>
    match v with
    | .string b => some (a == b)
    | v => unlike .string v
  | .tuple vs, v =>
    match v with
    | .tuple ws => if vs.length = ws.length then equalAll? vs ws else some false
    | v => unlike (.tuple (types vs)) v
  | .list t vs, v =>
    match v with
    | .list s ws =>
      if t.same s && vs.length == ws.length then equalAll? vs ws else some false
    | v => unlike (.list t) v
  | .object vs, v =>
    match v with
    | .object ws => if vs.map (·.1) = ws.map (·.1) then equalFields? vs ws else some false
    | v => unlike (.object (fieldTypes vs)) v
  | .map t vs, v =>
    match v with
    | .map s ws =>
      if t.same s && vs.map (·.1) == ws.map (·.1) then equalFields? vs ws else some false
    | v => unlike (.map t) v

/-- Whether a known value of a type equals a value of another form. -/
def unlike (t : Ty) : Value → Option Bool
  | .unknown s => if s.isOpen || s.same t then none else some false
  | _ => some false

def equalAll? : List Value → List Value → Option Bool
  | v :: vs, w :: ws =>
    match equal? v w, equalAll? vs ws with
    | some false, _ => some false
    | _, some false => some false
    | some true, some true => some true
    | _, _ => none
  | _, _ => some true

def equalFields? : List (Name × Value) → List (Name × Value) → Option Bool
  | (_, v) :: vs, (_, w) :: ws =>
    match equal? v w, equalFields? vs ws with
    | some false, _ => some false
    | _, some false => some false
    | some true, some true => some true
    | _, _ => none
  | _, _ => some true

end

end Value
end Wordwalk.Settings.Hcl
