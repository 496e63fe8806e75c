import Wordwalk.Settings.Yaml.Scan

/-! The first document of a YAML text as a tree of nodes. -/
namespace Wordwalk.Settings.Yaml

/-- A node of a document. A scalar keeps whether it was written without quotes; an alias refers to
the node of that number. -/
inductive Node where
  | scalar (tag : Option (List Char)) (plain : Bool) (text : List Char)
  | sequence (items : List Node)
  | mapping (entries : List (Node × Node))
  | reference (name : List Char) (target : Nat)

/-- What stands where a node is left out. -/
def Node.empty : Node := .scalar none true []

/-- A document: its root, the nodes that have an anchor, by their numbers, and a number that no path
through its nodes is longer than. -/
structure Document where
  root : Node
  anchored : List (Nat × Node)
  depth : Nat

/-- The tokens still to be read, and the names that have been given. -/
structure Reader where
  tokens : List Token
  /-- The expansions of tag handles. -/
  handles : List (List Char × List Char) := []
  /-- The number that each anchor last stood for. -/
  anchors : List (List Char × Nat) := []
  anchored : List (Nat × Node) := []
  count : Nat := 0

namespace Reader

/-- A step that reads tokens and can fail. -/
abbrev Read := StateT Reader Option

/-- The next token. -/
def peek : Read Token := do
  match (← get).tokens with
  | t :: _ => pure t
  | [] => failure

def skip : Read Unit := modify fun r => { r with tokens := r.tokens.tail }

/-- The expansions of the two handles that every document has. -/
def standardHandles : List (List Char × List Char) :=
  [(['!'], ['!']), (['!', '!'], "tag:yaml.org,2002:".toList)]

/-- The full text of a tag. The tag `!` alone is as good as none. -/
def fullTag (handle suffix : List Char) : Read (Option (List Char)) := do
  if handle.isEmpty then pure (if suffix = ['!'] then none else some suffix)
  else
    match ((← get).handles ++ standardHandles).lookup handle with
    | some expansion => pure (some (expansion ++ suffix))
    | none => failure

/-- The short form of a tag of the standard set. -/
def shortTag (tag : List Char) : List Char :=
  let standard := "tag:yaml.org,2002:".toList
  if standard.isPrefixOf tag then '!' :: '!' :: tag.drop standard.length else tag

/-- What can stand before a node: an anchor and a tag, in either order. -/
structure Properties where
  given : Bool := false
  anchor : Option (List Char) := none
  tag : Option (List Char) := none

def properties : Read Properties := do
  match ← peek with
  | .anchor name => do
    skip
    match ← peek with
    | .tag handle suffix => do
      skip
      pure ⟨true, some name, ← fullTag handle suffix⟩
    | _ => pure ⟨true, some name, none⟩
  | .tag handle suffix => do
    skip
    match ← peek with
    | .anchor name => do
      skip
      pure ⟨true, some name, ← fullTag handle suffix⟩
    | _ => pure ⟨true, none, ← fullTag handle suffix⟩
  | _ => pure {}

/-- Give an anchor its number; it holds from the start of its node. -/
def register (anchor : Option (List Char)) : Read (Option Nat) := do
  match anchor with
  | none => pure none
  | some name => do
    let n := (← get).count
    modify fun r => { r with anchors := (name, n) :: r.anchors, count := n + 1 }
    pure (some n)

def store (number : Option Nat) (node : Node) : Read Node := do
  match number with
  | none => pure node
  | some n => do
    modify fun r => { r with anchored := (n, node) :: r.anchored }
    pure node

mutual

/-- A node. Block collections are read only where `block`, and a sequence without indentation of its
own only where `bare`. -/
def node (block bare : Bool) : (fuel : Nat) → Read Node
  | 0 => failure
  | fuel + 1 => do
    match ← peek with
    | .reference name => do
      skip
      match (← get).anchors.lookup name with
      | some n => pure (.reference name n)
      | none => failure
    | _ => do
      let props ← properties
      let number ← register props.anchor
      let content ← content block bare props fuel
      store number content

/-- What follows the properties of a node; it can be left out after them. -/
def content (block bare : Bool) (props : Properties) : (fuel : Nat) → Read Node
  | 0 => failure
  | fuel + 1 => do
    let missing : Read Node :=
      if props.given then pure (.scalar (props.tag.map shortTag) true []) else failure
    match ← peek with
    | .scalar plain text => do
      skip
      pure (.scalar (props.tag.map shortTag) plain text)
    | .entry => if bare then .sequence <$> bareItems fuel else missing
    | .flowSequence => do
      skip
      .sequence <$> flowItems true fuel
    | .flowMapping => do
      skip
      .mapping <$> flowEntries true fuel
    | .blockSequence => if block then do skip; .sequence <$> blockItems fuel else missing
    | .blockMapping => if block then do skip; .mapping <$> blockEntries fuel else missing
    | _ => missing

def blockItems : (fuel : Nat) → Read (List Node)
  | 0 => failure
  | fuel + 1 => do
    match ← peek with
    | .entry => do
      skip
      let item ← match ← peek with
        | .entry | .blockEnd => pure Node.empty
        | _ => node true false fuel
      pure (item :: (← blockItems fuel))
    | .blockEnd => do
      skip
      pure []
    | _ => failure

def bareItems : (fuel : Nat) → Read (List Node)
  | 0 => failure
  | fuel + 1 => do
    match ← peek with
    | .entry => do
      skip
      let item ← match ← peek with
        | .entry | .key | .value | .blockEnd => pure Node.empty
        | _ => node true false fuel
      pure (item :: (← bareItems fuel))
    | _ => pure []

def blockEntries : (fuel : Nat) → Read (List (Node × Node))
  | 0 => failure
  | fuel + 1 => do
    match ← peek with
    | .key => do
      skip
      let key ← match ← peek with
        | .key | .value | .blockEnd => pure Node.empty
        | _ => node true true fuel
      let value ← match ← peek with
        | .value => do
          skip
          match ← peek with
          | .key | .value | .blockEnd => pure Node.empty
          | _ => node true true fuel
        | _ => pure Node.empty
      pure ((key, value) :: (← blockEntries fuel))
    | .blockEnd => do
      skip
      pure []
    | _ => failure

/-- The items of a flow sequence; a key in it is a mapping of one entry. -/
def flowItems (first : Bool) : (fuel : Nat) → Read (List Node)
  | 0 => failure
  | fuel + 1 => do
    match ← peek with
    | .flowSequenceEnd => do
      skip
      pure []
    | _ => do
      unless first do
        match ← peek with
        | .comma => skip
        | _ => failure
      match ← peek with
      | .flowSequenceEnd => do
        skip
        pure []
      | .key => do
        skip
        let entry ← flowPair fuel
        pure (.mapping [entry] :: (← flowItems false fuel))
      | _ => do
        let item ← node false false fuel
        pure (item :: (← flowItems false fuel))

/-- The entry after a key's token in a flow sequence. Where the key is left out, the token that
stands there is dropped with it. -/
def flowPair : (fuel : Nat) → Read (Node × Node)
  | 0 => failure
  | fuel + 1 => do
    let key ← match ← peek with
      | .value | .comma | .flowSequenceEnd => do
        skip
        pure Node.empty
      | _ => node false false fuel
    let value ← match ← peek with
      | .value => do
        skip
        match ← peek with
        | .comma | .flowSequenceEnd => pure Node.empty
        | _ => node false false fuel
      | _ => pure Node.empty
    pure (key, value)

def flowEntries (first : Bool) : (fuel : Nat) → Read (List (Node × Node))
  | 0 => failure
  | fuel + 1 => do
    match ← peek with
    | .flowMappingEnd => do
      skip
      pure []
    | _ => do
      unless first do
        match ← peek with
        | .comma => skip
        | _ => failure
      match ← peek with
      | .flowMappingEnd => do
        skip
        pure []
      | .key => do
        skip
        let key ← match ← peek with
          | .value | .comma | .flowMappingEnd => pure Node.empty
          | _ => node false false fuel
        let value ← match ← peek with
          | .value => do
            skip
            match ← peek with
            | .comma | .flowMappingEnd => pure Node.empty
            | _ => node false false fuel
          | _ => pure Node.empty
        pure ((key, value) :: (← flowEntries false fuel))
      | _ => do
        let key ← node false false fuel
        pure ((key, Node.empty) :: (← flowEntries false fuel))

end

/-- The directives before a document and the mark that ends them. The only version is 1.1. -/
def directives (versioned : Bool) : (fuel : Nat) → Read Unit
  | 0 => failure
  | fuel + 1 => do
    match ← peek with
    | .version major minor => do
      guard (!versioned && major = 1 && minor = 1)
      skip
      directives true fuel
    | .abbreviation handle expansion => do
      guard (((← get).handles.lookup handle).isNone)
      modify fun r => { r with handles := (handle, expansion) :: r.handles }
      skip
      directives versioned fuel
    | .documentStart => skip
    | _ => failure

/-- The root of the first document, if there is a document. -/
def root (fuel : Nat) : Read (Option Node) := do
  match ← peek with
  | .streamEnd => pure none
  | .version _ _ | .abbreviation _ _ | .documentStart => do
    directives false fuel
    match ← peek with
    | .version _ _ | .abbreviation _ _ | .documentStart | .documentEnd | .streamEnd =>
      pure (some Node.empty)
    | _ => some <$> node true false fuel
  | _ => some <$> node true false fuel

end Reader

/-- The first document of a text. What follows it is not read, except that there must be three more
tokens or the end of the text. -/
def Document.read (text : List Char) : Option (Option Document) := do
  let (tokens, complete) := Scan.tokensOf text
  let (root, r) ← (Reader.root (4 * tokens.length + 8)).run { tokens := tokens }
  guard (complete || r.tokens.length ≥ 3 || root.isNone)
  pure (root.map fun root => ⟨root, r.anchored, tokens.length + 1⟩)

end Wordwalk.Settings.Yaml
