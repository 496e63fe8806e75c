import Wordwalk.Settings.Hcl.Expr

/-! What HCL expressions evaluate to. An expression that fails has a value all the same, of which at
least the type can matter: a conditional looks at the types of both its branches. -/
namespace Wordwalk.Settings.Hcl

/-- The values of names, and of the element that a splat is applied to. -/
structure Env where
  names : List (Name × Value)
  item : Value := .untyped

/-- A value, and whether there was a fault on the way to it. -/
structure Outcome where
  value : Value
  failed : Bool := false

namespace Outcome

/-- A fault that leaves no type. -/
def fault : Outcome := ⟨.untyped, true⟩

/-- The outcome with a fault of an earlier one kept. -/
def after (o : Outcome) (failed : Bool) : Outcome := { o with failed := o.failed || failed }

end Outcome

namespace Value

/-- The attribute of a value. -/
def field (v : Value) (n : Name) : Outcome :=
  let n := Canonical.form n
  match v with
  | .object fields =>
    match fields.lookup n with
    | some v => ⟨v, false⟩
    | none => .fault
  | .map _ fields =>
    match fields.lookup n with
    | some v => ⟨v, false⟩
    | none => .fault
  | .unknown .dynamic => ⟨.untyped, false⟩
  | .unknown (.object fields) =>
    match fields.lookup n with
    | some t => ⟨.unknown t, false⟩
    | none => .fault
  | .unknown (.map t) => ⟨.unknown t, false⟩
  | _ => .fault

/-- The item of a list at a number; `missing` is the outcome if the number is not known. -/
def itemAt (items : List Value) (key missing : Value) : Outcome :=
  match key.as? .number with
  | some (.number n) =>
    match n.index?.bind fun i => items[i]? with
    | some v => ⟨v, false⟩
    | none => .fault
  | some (.unknown _) => ⟨missing, false⟩
  | _ => .fault

/-- The field of a name; `missing` is the outcome if the name is not known. -/
def fieldAt (fields : List (Name × Value)) (key missing : Value) : Outcome :=
  match key.as? .string with
  | some (.string s) =>
    match fields.lookup s with
    | some v => ⟨v, false⟩
    | none => .fault
  | some (.unknown _) => ⟨missing, false⟩
  | _ => .fault

/-- The part of a value at an index. -/
def index (v key : Value) : Outcome :=
  if v.isNull || key.isNull then .fault
  else
    match key, v with
    | .unknown .dynamic, _ => ⟨.untyped, false⟩
    | _, .unknown .dynamic => ⟨.untyped, false⟩
    | key, .tuple items => itemAt items key .untyped
    | key, .list t items => itemAt items key (.unknown t)
    | key, .map t fields => fieldAt fields key (.unknown t)
    | key, .object fields => fieldAt fields key .untyped
    | _, .unknown (.tuple _) => ⟨.untyped, false⟩
    | _, .unknown (.object _) => ⟨.untyped, false⟩
    | _, .unknown (.list t) => ⟨.unknown t, false⟩
    | _, .unknown (.map t) => ⟨.unknown t, false⟩
    | _, _ => .fault

end Value

namespace Operator

/-- The type of the values that an operator joins, if it does not take all. -/
def operandType : Operator → Ty
  | .or | .and => .bool
  | .equal | .unequal => .dynamic
  | _ => .number

def resultType : Operator → Ty
  | .add | .subtract | .multiply | .divide | .remainder => .number
  | _ => .bool

/-- What an operator makes of two known values of its type. -/
def result? : Operator → Value → Value → Option Value
  | .or, .bool a, .bool b => some (.bool (a || b))
  | .and, .bool a, .bool b => some (.bool (a && b))
  | .greater, .number a, .number b => some (.bool (a.compare b == .gt))
  | .greaterEqual, .number a, .number b => some (.bool (a.compare b != .lt))
  | .less, .number a, .number b => some (.bool (a.compare b == .lt))
  | .lessEqual, .number a, .number b => some (.bool (a.compare b != .gt))
  | .add, .number a, .number b => (a.add b).map .number
  | .subtract, .number a, .number b => (a.sub b).map .number
  | .multiply, .number a, .number b => (a.mul b).map .number
  | .divide, .number a, .number b => (a.div b).map .number
  | .remainder, .number a, .number b => (a.mod b).map .number
  | _, _, _ => none

/-- What an operator makes of two values. -/
def apply (op : Operator) (left right : Value) : Outcome :=
  let fault : Outcome := ⟨.unknown op.resultType, true⟩
  let equality (positive : Bool) : Outcome :=
    match left.equal? right with
    | some b => ⟨.bool (b == positive), false⟩
    | none => ⟨.unknown .bool, false⟩
  match op with
  | .equal => equality true
  | .unequal => equality false
  | op =>
    match left.as? op.operandType, right.as? op.operandType with
    | some left, some right =>
      if left.isNull || right.isNull then fault
      else if left.isUnknown || right.isUnknown then ⟨.unknown op.resultType, false⟩
      else
        match op.result? left right with
        | some v => ⟨v, false⟩
        | none => fault
    | _, _ => fault

end Operator

namespace Outcome

/-- The opposite of a truth value, or the negative of a number. -/
def unary (t : Ty) (f : Value → Option Value) (o : Outcome) : Outcome :=
  let fault : Outcome := ⟨.unknown t, true⟩
  if o.failed then fault
  else
    match o.value.as? t with
    | none => fault
    | some (.null _) => fault
    | some (.unknown _) => ⟨.unknown t, false⟩
    | some v =>
      match f v with
      | some v => ⟨v, false⟩
      | none => fault

def negate (o : Outcome) : Outcome :=
  o.unary .number fun v =>
    match v with
    | .number n => some (.number n.neg)
    | _ => none

def not (o : Outcome) : Outcome :=
  o.unary .bool fun v =>
    match v with
    | .bool b => some (.bool !b)
    | _ => none

/-- The type of a conditional with two branches. A null takes the type of the other branch. -/
def branchType (yes no : Value) : Option Ty :=
  match yes, no with
  | .null .dynamic, no => some no.type
  | yes, .null .dynamic => some yes.type
  | yes, no =>
    match yes.type, no.type with
    | .dynamic, _ => some .dynamic
    | _, .dynamic => some .dynamic
    | s, t => Ty.unify (s.depth + t.depth + 1) [s, t]

/-- A conditional. Only the branch that is chosen has to be without fault. -/
def conditional (condition yes no : Outcome) : Outcome :=
  match branchType yes.value no.value with
  | none => .fault
  | some t =>
    let choose (o : Outcome) : Outcome :=
      match o.value.as? t with
      | some v => ⟨v, condition.failed || o.failed⟩
      | none => ⟨.unknown t, true⟩
    match condition.value with
    | .null _ => ⟨.unknown t, true⟩
    | .unknown _ => ⟨.unknown t, condition.failed⟩
    | v =>
      match v.as? .bool with
      | some (.bool b) => choose (if b then yes else no)
      | _ => ⟨.unknown t, true⟩

def binary (op : Operator) (left right : Outcome) : Outcome :=
  if left.failed || right.failed then ⟨.unknown op.resultType, true⟩
  else op.apply left.value right.value

def tuple (items : List Outcome) : Outcome :=
  ⟨.tuple (items.map value), items.any failed⟩

/-- The key of a field: a text, or nothing if it is not known, and whether that is a fault. -/
def key (o : Outcome) : Option Name × Bool :=
  match o.value with
  | .null _ => (none, true)
  | .unknown t => (none, o.failed || !t.converts (t.depth + 1) .string)
  | v =>
    match v.asText? with
    | some s => (some (Canonical.form s), o.failed)
    | none => (none, true)

/-- An object of keys and values, a later one in place of an earlier one of the same key. -/
def object (fields : List (Outcome × Outcome)) : Outcome :=
  let failed := fields.any fun (k, v) => k.key.2 || v.failed
  if fields.all fun (k, _) => k.key.1.isSome && !k.failed then
    let put (fs : List (Name × Value)) (f : Outcome × Outcome) : List (Name × Value) :=
      match f.1.key.1 with
      | some n => Value.putField n f.2.value fs
      | none => fs
    ⟨.object (fields.foldl put []), failed⟩
  else ⟨.untyped, failed⟩

/-- Whether the elements that `condition` was evaluated for are taken: nothing if that is not known,
and whether that is a fault. -/
def taken (condition : Outcome) : Option Bool × Bool :=
  match condition.value with
  | .null _ => (none, true)
  | .unknown t => (none, condition.failed || !t.converts (t.depth + 1) .bool)
  | v =>
    match v.as? .bool with
    | some (.bool b) => (some b, condition.failed)
    | _ => (none, true)

/-- A loop over a value. `trial` is the condition with variables that have no value yet; `body`
gives the condition and the outcome for a key and a value. -/
def loop {α : Type} (source trial : Outcome) (body : Value → Value → Outcome × α)
    (collect : List α → Outcome) : Outcome :=
  if source.value.isNull then .fault
  else
    match source.value.elements? with
    | none =>
      match source.value.type with
      | .dynamic => ⟨.untyped, source.failed⟩
      | .tuple _ | .object _ | .list _ | .map _ => ⟨.untyped, source.failed⟩
      | _ => .fault
    | some elements =>
      if trial.taken.2 then .fault
      else
        let results := elements.map fun (k, v) => body k v
        let failed := source.failed || results.any fun r => r.1.taken.2
        let chosen := results.filterMap fun r => if r.1.taken.1 = some true then some r.2 else none
        let outcome := collect chosen
        if results.all fun r => r.1.taken.1.isSome then outcome.after failed
        else ⟨.untyped, failed || outcome.failed⟩

/-- Fields of which no key is given twice. -/
def distinct (fields : List (Outcome × Outcome)) : Outcome :=
  let keys := fields.map fun f => f.1.key.1
  let twice := (keys.zipIdx.any fun (k, i) => (keys.take i).contains k)
  (object fields).after twice

/-- An object in which each key has the tuple of all its values. -/
def grouped (fields : List (Outcome × Outcome)) : Outcome :=
  let put (fs : List (Name × Value)) (f : Outcome × Outcome) : List (Name × Value) :=
    match f.1.key.1 with
    | none => fs
    | some n =>
      match fs.lookup n with
      | some (.tuple vs) => Value.putField n (.tuple (vs ++ [f.2.value])) fs
      | _ => Value.putField n (.tuple [f.2.value]) fs
  let whole := object fields
  match whole.value with
  | .object _ => ⟨.object (fields.foldl put []), whole.failed⟩
  | _ => whole

/-- The texts of values one after the other. Null has no text. -/
def concat (parts : List Outcome) : Outcome :=
  let bad (o : Outcome) : Bool :=
    o.failed ||
      match o.value with
      | .null _ => true
      | .unknown _ => false
      | v => v.asText?.isNone
  let failed := parts.any bad
  if parts.any fun o => o.value.isUnknown then ⟨.unknown .string, failed⟩
  else ⟨Value.text (parts.flatMap fun o => o.value.asText?.getD []), failed⟩

/-- The texts of the values of a tuple one after the other. -/
def join (o : Outcome) : Outcome :=
  match o.value with
  | .tuple vs => (concat (vs.map fun v => ⟨v, false⟩)).after o.failed
  | _ => ⟨.unknown .string, o.failed⟩

/-- An expression for each element of a value. What is no list counts as one of a single element,
and null as an empty one. -/
def splat (source : Outcome) (each : Value → Outcome) : Outcome :=
  let collected (items : List Value) (collect : List Value → Value) : Outcome :=
    let results := items.map each
    if results.any failed then .fault else ⟨collect (results.map value), false⟩
  if source.failed then .fault
  else
    match source.value with
    | .null (.tuple _) => .fault
    | .null (.list _) => .fault
    | .null _ => ⟨.tuple [], false⟩
    | .unknown .dynamic => ⟨.untyped, false⟩
    | .unknown (.tuple _) => ⟨.untyped, false⟩
    | .unknown (.list t) => ⟨.unknown (.list (each (.unknown t)).value.type), false⟩
    | .unknown t => ⟨.untyped, (each (.unknown t)).failed⟩
    | .tuple vs => collected vs .tuple
    | .list t vs => collected vs (.list (each (.unknown t)).value.type)
    | v => collected [v] .tuple

end Outcome

namespace Env

/-- The names of a loop given their values. -/
def bind (env : Env) (keyName : Option Name) (valueName : Name) (k v : Value) : Env :=
  let outer := env.names
  match keyName with
  | some n => { env with names := (valueName, v) :: (n, k) :: outer }
  | none => { env with names := (valueName, v) :: outer }

end Env

namespace Expr

mutual

/-- What an expression evaluates to. -/
def eval (env : Env) : Expr → Outcome
  | .literal v => ⟨v, false⟩
  | .reference n =>
    match env.names.lookup n with
    | some v => ⟨v, false⟩
    | none => .fault
  | .enclosed e => eval env e
  | .item => ⟨env.item, false⟩
  | .field e n =>
    let o := eval env e
    (o.value.field n).after o.failed
  | .index e key _ =>
    let o := eval env e
    let k := eval env key
    (o.value.index k.value).after (o.failed || k.failed)
  | .splat e each => (eval env e).splat fun v => eval { env with item := v } each
  | .invalid => .fault
  | .conditional condition yes no =>
    Outcome.conditional (eval env condition) (eval env yes) (eval env no)
  | .binary op left right => Outcome.binary op (eval env left) (eval env right)
  | .negate e => (eval env e).negate
  | .not e => (eval env e).not
  | .tuple items => Outcome.tuple (evalAll env items)
  | .object fields => Outcome.object (evalFields env fields)
  | .forTuple keyName valueName source value condition =>
    Outcome.loop (eval env source)
      (eval (env.bind keyName valueName .untyped .untyped) condition)
      (fun k v =>
        (eval (env.bind keyName valueName k v) condition,
          eval (env.bind keyName valueName k v) value))
      Outcome.tuple
  | .forObject keyName valueName source key value grouped condition =>
    Outcome.loop (eval env source)
      (eval (env.bind keyName valueName .untyped .untyped) condition)
      (fun k v =>
        (eval (env.bind keyName valueName k v) condition,
          (eval (env.bind keyName valueName k v) key,
            eval (env.bind keyName valueName k v) value)))
      (if grouped then Outcome.grouped else Outcome.distinct)
  | .template parts => Outcome.concat (evalAll env parts)
  | .join items => (eval env items).join

def evalAll (env : Env) : List Expr → List Outcome
  | [] => []
  | e :: es => eval env e :: evalAll env es

def evalFields (env : Env) : List (Expr × Expr) → List (Outcome × Outcome)
  | [] => []
  | (k, v) :: fields => (eval env k, eval env v) :: evalFields env fields

end

end Expr
end Wordwalk.Settings.Hcl
