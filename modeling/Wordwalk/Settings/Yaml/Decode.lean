import Wordwalk.Settings.Basic
import Wordwalk.Settings.Yaml.Kind
import Wordwalk.Settings.Yaml.Node
import Wordwalk.Text.Base64

/-! Settings in YAML: the first document of the text, which is a mapping or null. -/
namespace Wordwalk.Settings.Yaml

/-- The text that a scalar stands for, or null. Fails if a tag names a kind that the text is not
of. -/
def scalarText (tag : Option (List Char)) (plain : Bool) (text : List Char) :
    Option (Option Bytes) :=
  let asText : Option (Option Bytes) := some (some (bytesOf text))
  match tag.map String.ofList with
  | none => if plain && Kind.nullWords.contains (String.ofList text) then some none else asText
  | some "!!null" =>
    match Kind.ofText false text with
    | .null => some none
    | _ => none
  | some "!!bool" =>
    match Kind.ofText false text with
    | .bool => asText
    | _ => none
  | some "!!int" =>
    match Kind.ofText false text with
    | .int _ => asText
    | _ => none
  | some "!!float" =>
    match Kind.ofText false text with
    | .float => asText
    | .int n => if n < 0x8000000000000000 then asText else none
    | _ => none
  | some "!!timestamp" =>
    match Kind.ofText true text with
    | .timestamp => asText
    | _ => none
  | some "!!binary" => (Base64.decode (bytesOf text)).map some
  | some _ => asText

/-- Whether a key asks for the entries of other mappings. -/
def isMerge : Node → Bool
  | .scalar tag plain text =>
    text == ['<', '<'] &&
      match tag with
      | none => plain
      | some tag => tag == "!!merge".toList
  | _ => false

/-- Whether two keys are written alike. -/
def sameKey : Node → Node → Bool
  | .scalar _ _ s, .scalar _ _ t => s == t
  | .reference s _, .reference t _ => s == t
  | .sequence _, .sequence _ => true
  | .mapping _, .mapping _ => true
  | _, _ => false

/-- Whether two keys of a mapping are written alike. -/
def hasTwin : List (Node × Node) → Bool
  | [] => false
  | (key, _) :: entries => entries.any (fun e => sameKey key e.1) || hasTwin entries

/-- The node that a node stands for, past aliases. Fails if it contains itself. -/
def Document.resolve (d : Document) : (fuel : Nat) → Node → Option Node
  | 0, _ => none
  | fuel + 1, .reference _ target => (d.anchored.lookup target).bind (d.resolve fuel)
  | _ + 1, node => some node

/-- The text that a node stands for, or null. -/
def Document.text (d : Document) (node : Node) : Option (Option Bytes) :=
  match d.resolve d.depth node with
  | some (.scalar tag plain text) => scalarText tag plain text
  | _ => none

/-- The patterns that a node lists; null is no pattern. -/
def Document.patterns (d : Document) (node : Node) : Option (List Bytes) :=
  match d.resolve d.depth node with
  | some (.scalar tag plain text) =>
    match scalarText tag plain text with
    | some none => some []
    | _ => none
  | some (.sequence items) => (items.mapM d.text).map (List.filterMap id)
  | _ => none

/-- The settings read so far and the names of the entries that gave them. -/
structure Draft where
  settings : Settings := {}
  names : List Bytes := []

/-- One entry of a mapping, taken over into the draft. In a mapping that is merged into another, a
name that was given before is passed over. -/
def Draft.entry (d : Document) (merged : Bool) (draft : Draft) (key value : Node) :
    Option Draft := do
  match ← d.text key with
  | none => pure draft
  | some name =>
    if draft.names.contains name then
      if merged then pure draft else none
    else
      let draft := { draft with names := name :: draft.names }
      if name = ("ignore" : Bytes) then
        let patterns ← d.patterns value
        pure { draft with settings := { draft.settings with ignore := patterns } }
      else if name = ("separator" : Bytes) then
        let text ← d.text value
        pure { draft with
          settings := { draft.settings with separator := text.getD draft.settings.separator } }
      else none

/-- A mapping taken over into the draft: first its own entries, then those of the mappings that it
merges. -/
def Draft.mapping (d : Document) : (fuel : Nat) → (merged : Bool) → Draft → Node → Option Draft
  | 0, _, _, _ => none
  | fuel + 1, merged, draft, node => do
    match ← d.resolve d.depth node with
    | .mapping entries => do
      guard (!hasTwin entries)
      let own := entries.filter fun e => !isMerge e.1
      let draft ← own.foldlM (fun draft e => draft.entry d merged e.1 e.2) draft
      match entries.find? fun e => isMerge e.1 with
      | none => pure draft
      | some (_, .sequence items) => items.foldlM (Draft.mapping d fuel true) draft
      | some (_, source) => Draft.mapping d fuel true draft source
    | _ => none

/-- The settings that a document gives. -/
def Document.settings (d : Document) : Option Settings :=
  match d.root with
  | .scalar tag plain text =>
    match scalarText tag plain text with
    | some none => some {}
    | _ => none
  | root => (Draft.mapping d d.depth false {} root).map Draft.settings

/-- The settings that a YAML text gives. -/
def parse (s : Bytes) : Except Fault Settings :=
  let settings : Option Settings := do
    match ← Document.read (← characters s) with
    | none => pure {}
    | some d => d.settings
  match settings with
  | some settings => .ok settings
  | none => .error (.unreadable .yaml)

end Wordwalk.Settings.Yaml
