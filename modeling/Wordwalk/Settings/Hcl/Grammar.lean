import Wordwalk.Settings.Hcl.Template

/-! The grammar of HCL: a body of arguments and blocks, and the expressions of arguments. -/
namespace Wordwalk.Settings.Hcl.Grammar

/-- A step that reads tokens and can fail. -/
abbrev Read := StateT (List Token) Option

def isNewline : Token → Bool
  | .newline => true
  | _ => false

/-- The tokens from the next one on; where line ends have no meaning they are passed over. -/
def ahead (lines : Bool) (ts : List Token) : List Token :=
  if lines then ts else ts.dropWhile isNewline

/-- The next token, if there is one. -/
def peek (lines : Bool) : Read (Option Token) := do pure (ahead lines (← get)).head?

def skip (lines : Bool) : Read Unit := modify fun ts => (ahead lines ts).tail

/-- Past a mark that must come next. -/
def expect (lines : Bool) (mark : String) : Read Unit := do
  match ← peek lines with
  | some (.mark m) => if m = mark then skip lines else failure
  | _ => failure

/-- The name that must come next. -/
def name (lines : Bool) : Read Name := do
  match ← peek lines with
  | some (.word n) => do
    skip lines
    pure n
  | _ => failure

/-- Whether a mark comes next; it is passed if so. -/
def accept (lines : Bool) (mark : String) : Read Bool := do
  match ← peek lines with
  | some (.mark m) =>
    if m = mark then do
      skip lines
      pure true
    else pure false
  | _ => pure false

/-- Whether a word comes next; it is passed if so. -/
def acceptWord (lines : Bool) (word : String) : Read Bool := do
  match ← peek lines with
  | some (.word n) =>
    if n = word.toList then do
      skip lines
      pure true
    else pure false
  | _ => pure false

/-- The operators between two values, those that bind least first. -/
def operators : List (List (String × Operator)) :=
  [[("||", .or)],
   [("&&", .and)],
   [("==", .equal), ("!=", .unequal)],
   [(">", .greater), (">=", .greaterEqual), ("<", .less), ("<=", .lessEqual)],
   [("+", .add), ("-", .subtract)],
   [("*", .multiply), ("/", .divide), ("%", .remainder)]]

/-- The names of a loop: a value, or a key and a value. -/
def loopNames : Read (Option Name × Name) := do
  let first ← name false
  if ← accept false "," then do
    let second ← name false
    pure (some first, second)
  else pure (none, first)

/-- What ends a template. -/
inductive Closer where
  | quote
  | heredoc

mutual

/-- An expression. Where `lines`, a line end is a token of its own. -/
def expression (lines : Bool) : (fuel : Nat) → Read Expr
  | 0 => failure
  | fuel + 1 => do
    let condition ← operation lines operators fuel
    if ← accept lines "?" then do
      let yes ← expression lines fuel
      expect lines ":"
      let no ← expression lines fuel
      pure (.conditional condition yes no)
    else pure condition

/-- Values joined by operators of the given levels. -/
def operation (lines : Bool) (levels : List (List (String × Operator))) : (fuel : Nat) → Read Expr
  | 0 => failure
  | fuel + 1 => do
    match levels with
    | [] => do
      let e ← term lines fuel
      steps lines e fuel
    | level :: levels => do
      let left ← operation lines levels fuel
      operationRest lines level levels left fuel

/-- The operators of one level after a value, from left to right. -/
def operationRest (lines : Bool) (level : List (String × Operator))
    (levels : List (List (String × Operator))) (left : Expr) : (fuel : Nat) → Read Expr
  | 0 => failure
  | fuel + 1 => do
    match ← peek lines with
    | some (.mark m) =>
      match level.lookup m with
      | some op => do
        skip lines
        let right ← operation lines levels fuel
        operationRest lines level levels (.binary op left right) fuel
      | none => pure left
    | _ => pure left

/-- Attributes, indices and splats after a value. -/
def steps (lines : Bool) (e : Expr) : (fuel : Nat) → Read Expr
  | 0 => failure
  | fuel + 1 => do
    if ← accept lines "." then do
      match ← peek lines with
      | some (.word n) => do
        skip lines
        steps lines (.field e n) fuel
      | some (.number n pointed) => do
        guard !pointed
        skip lines
        steps lines (.index e (.literal (.number n)) true) fuel
      | some (.mark "*") => do
        skip lines
        let each ← fieldSteps lines .item fuel
        steps lines (.splat e each) fuel
      | _ => failure
    else if ← accept lines "[" then do
      if ← accept lines "*" then do
        expect lines "]"
        let each ← steps lines .item fuel
        steps lines (.splat e each) fuel
      else do
        let key ← expression false fuel
        expect false "]"
        steps lines (.index e key key.isFixed) fuel
    else pure e

/-- Attributes and numbers after a splat that is written with a dot. -/
def fieldSteps (lines : Bool) (e : Expr) : (fuel : Nat) → Read Expr
  | 0 => failure
  | fuel + 1 => do
    if ← accept lines "." then do
      match ← peek lines with
      | some (.word n) => do
        skip lines
        fieldSteps lines (.field e n) fuel
      | some (.number n pointed) => do
        guard !pointed
        skip lines
        fieldSteps lines (.index e (.literal (.number n)) true) fuel
      | _ => failure
    else pure e

def term (lines : Bool) : (fuel : Nat) → Read Expr
  | 0 => failure
  | fuel + 1 => do
    match ← peek lines with
    | some (.mark "(") => do
      skip lines
      let e ← expression false fuel
      expect false ")"
      pure (.enclosed e)
    | some (.number n _) => do
      skip lines
      pure (.literal (.number n))
    | some (.word n) => do
      skip lines
      match ← peek lines with
      | some (.mark "(") => call lines fuel
      | some (.mark "::") => call lines fuel
      | _ =>
        if n = "true".toList then pure (.literal (.bool true))
        else if n = "false".toList then pure (.literal (.bool false))
        else if n = "null".toList then pure (.literal (.null .dynamic))
        else pure (.reference n)
    | some .openQuote => do
      skip lines
      let parts ← parts .quote false [] fuel
      StateT.lift (Part.template? parts)
    | some (.openHeredoc flush) => do
      skip lines
      let parts ← parts .heredoc false [] fuel
      StateT.lift (Part.template? (if flush then Part.flush parts else parts))
    | some (.mark "-") => do
      skip lines
      let e ← term lines fuel
      .negate <$> steps lines e fuel
    | some (.mark "!") => do
      skip lines
      let e ← term lines fuel
      .not <$> steps lines e fuel
    | some (.mark "[") => do
      skip lines
      if ← acceptWord false "for" then forExpression "]" fuel
      else .tuple <$> items fuel
    | some (.mark "\x7b") => do
      skip lines
      if ← acceptWord false "for" then forExpression "\x7d" fuel
      else .object <$> fields fuel
    | _ => failure

/-- A call, from after its first name: more names, and arguments in parentheses. -/
def call (lines : Bool) : (fuel : Nat) → Read Expr
  | 0 => failure
  | fuel + 1 => do
    if ← accept lines "::" then do
      let _ ← name lines
      call lines fuel
    else do
      expect lines "("
      callArguments fuel
      pure .invalid

def callArguments : (fuel : Nat) → Read Unit
  | 0 => failure
  | fuel + 1 => do
    if ← accept false ")" then pure ()
    else do
      let _ ← expression false fuel
      if ← accept false ")" then pure ()
      else if ← accept false "..." then expect false ")"
      else do
        expect false ","
        callArguments fuel

/-- The items of a tuple and its closing bracket. -/
def items : (fuel : Nat) → Read (List Expr)
  | 0 => failure
  | fuel + 1 => do
    if ← accept false "]" then pure []
    else do
      let e ← expression false fuel
      if ← accept false "]" then pure [e]
      else do
        expect false ","
        pure (e :: (← items fuel))

/-- The fields of an object and its closing brace. A comma or a line end stands between two. -/
def fields : (fuel : Nat) → Read (List (Expr × Expr))
  | 0 => failure
  | fuel + 1 => do
    match ← peek true with
    | some .newline => do
      skip true
      fields fuel
    | some (.mark "\x7d") => do
      skip true
      pure []
    | first => do
      let parenthesized := match first with
        | some (.mark "(") => true
        | _ => false
      let key ← expression true fuel
      unless ← accept true "=" do expect true ":"
      let value ← expression true fuel
      let field := (key.asKey parenthesized, value)
      match ← peek true with
      | some (.mark "\x7d") => do
        skip true
        pure [field]
      | some .newline => do
        skip true
        pure (field :: (← fields fuel))
      | _ => do
        expect true ","
        pure (field :: (← fields fuel))

/-- A loop in brackets or braces, from after its first word to its end. -/
def forExpression (closer : String) : (fuel : Nat) → Read Expr
  | 0 => failure
  | fuel + 1 => do
    let (keyName, valueName) ← loopNames
    guard (← acceptWord false "in")
    let source ← expression false fuel
    expect false ":"
    let first ← expression false fuel
    let second? ← if ← accept false "=>" then some <$> expression false fuel else pure none
    let grouped ← accept false "..."
    let condition ←
      if ← acceptWord false "if" then expression false fuel else pure (.literal (.bool true))
    expect false closer
    match second? with
    | none => do
      guard (closer = "]" && !grouped)
      pure (.forTuple keyName valueName source first condition)
    | some value => do
      guard (closer ≠ "]")
      pure (.forObject keyName valueName source first value grouped condition)

/-- The parts of a template up to its end, after those already read, which are in reverse. -/
def parts (closer : Closer) (trim : Bool) (found : List Part) : (fuel : Nat) → Read (List Part)
  | 0 => failure
  | fuel + 1 => do
    match ← peek true with
    | some (.literal text) => do
      skip true
      let text := if trim then text.dropWhile Lexer.isWhite else text
      parts closer false (.literal text :: found) fuel
    | some (.interpolation trimBefore) => do
      skip true
      let found := if trimBefore then Part.trimEnd found else found
      let e ← expression false fuel
      let trim ← sequenceEnd
      parts closer trim (.value e :: found) fuel
    | some (.directive trimBefore) => do
      skip true
      let found := if trimBefore then Part.trimEnd found else found
      let part ← directive fuel
      let trim ← sequenceEnd
      parts closer trim (part :: found) fuel
    | some .closeQuote => do
      match closer with
      | .quote => do
        skip true
        pure found.reverse
      | .heredoc => failure
    | some .closeHeredoc => do
      match closer with
      | .heredoc => do
        skip true
        pure found.reverse
      | .quote => failure
    | _ => failure

/-- The end of a sequence in a template: whether white space after it is dropped. -/
def sequenceEnd : Read Bool := do
  match ← peek false with
  | some (.sequenceEnd trim) => do
    skip false
    pure trim
  | _ => failure

/-- A condition, a loop, a turn or an end, between the braces of a directive. -/
def directive : (fuel : Nat) → Read Part
  | 0 => failure
  | fuel + 1 => do
    let word ← name false
    if word = "if".toList then .ifPart <$> expression false fuel
    else if word = "else".toList then pure .elsePart
    else if word = "endif".toList then pure .endIf
    else if word = "endfor".toList then pure .endFor
    else if word = "for".toList then do
      let (keyName, valueName) ← loopNames
      guard (← acceptWord false "in")
      .forPart keyName valueName <$> expression false fuel
    else failure

end

/-- The rest of a block's label after its opening quote. -/
def labelEnd : (fuel : Nat) → Read Unit
  | 0 => failure
  | fuel + 1 => do
    match ← peek true with
    | some (.literal _) => do
      skip true
      labelEnd fuel
    | some .closeQuote => skip true
    | _ => failure

/-- The labels of a block and its opening brace. -/
def blockHead : (fuel : Nat) → Read Unit
  | 0 => failure
  | fuel + 1 => do
    match ← peek true with
    | some .openQuote => do
      skip true
      labelEnd fuel
      blockHead fuel
    | some (.word _) => do
      skip true
      blockHead fuel
    | _ => expect true "\x7b"

/-- The end of a line or of the text. -/
def lineEnd : Read Unit := do
  match ← peek true with
  | none => pure ()
  | some .newline => skip true
  | _ => failure

/-- The rest of a body to the end of the text or, if it is a block's, to its closing brace. No name
is given twice. -/
def body (inner : Bool) (found : Body) : (fuel : Nat) → Read Body
  | 0 => failure
  | fuel + 1 => do
    match ← peek true with
    | none => if inner then failure else pure found
    | some .newline => do
      skip true
      body inner found fuel
    | some (.mark "\x7d") => do
      guard inner
      skip true
      pure found
    | some (.word n) => do
      skip true
      if ← accept true "=" then do
        let e ← expression true fuel
        lineEnd
        guard (found.arguments.lookup n).isNone
        body inner { found with arguments := (n, e) :: found.arguments } fuel
      else do
        blockHead fuel
        match ← peek true with
        | none => failure
        | some (.word _) => do
          let _ ← name true
          expect true "="
          let _ ← expression true fuel
          expect true "\x7d"
        | _ => do
          let _ ← body true {} fuel
        lineEnd
        body inner { found with hasBlocks := true } fuel
    | _ => failure

/-- The body that a text is. -/
def read? (text : Bytes) : Option Body := do
  let tokens ← Lexer.tokens text
  let (found, _) ← (body false {} (20 * tokens.length + 40)).run tokens
  pure found

end Wordwalk.Settings.Hcl.Grammar
