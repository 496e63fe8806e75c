import Wordwalk.CommandLine.Usage

/-! The flags of the command line and what they set. -/
namespace Wordwalk.CommandLine

inductive Flag where
  | config
  | debug
  | dryRun
  | help
  | ignore
  | separator
deriving DecidableEq

/-- What the flags of a command line ask for. -/
structure Options where
  config : Bytes := []
  debug : Bool := false
  ignore : List Bytes := []
  help : Bool := false
  separator : Option Bytes := none
  dryRun : Bool := false

namespace Flag

def name : Flag → Bytes
  | .config => "config"
  | .debug => "debug"
  | .dryRun => "dry-run"
  | .help => "help"
  | .ignore => "ignore"
  | .separator => "separator"

/-- The letter that stands for the flag. -/
def letter? : Flag → Option UInt8
  | .config => some 0x63
  | .debug => some 0x64
  | .help => some 0x68
  | _ => none

/-- What kind of value the flag takes, if it takes one. -/
def valueName? : Flag → Option Bytes
  | .config | .separator => some "string"
  | .ignore => some "stringArray"
  | _ => none

/-- Whether the flag is on when it stands alone. -/
def isSwitch (f : Flag) : Bool := f.valueName?.isNone

/-- The flag in messages. -/
def display (f : Flag) : Bytes :=
  match f.letter? with
  | some letter => "-" ++ [letter] ++ ", --" ++ f.name
  | none => "--" ++ f.name

/-- The truth value that a text spells. -/
def truth? (s : Bytes) : Option Bool :=
  if ["1", "t", "T", "TRUE", "true", "True"].any (Bytes.ofString · = s) then some true
  else if ["0", "f", "F", "FALSE", "false", "False"].any (Bytes.ofString · = s) then some false
  else none

/-- Give a flag a value. The last value wins, but patterns to ignore add up. -/
def set (f : Flag) (value : Bytes) (o : Options) : Except UsageFault Options :=
  let switch (set : Bool → Options) : Except UsageFault Options :=
    match truth? value with
    | some b => .ok (set b)
    | none => .error (.notBool f.display value)
  match f with
  | .config => .ok { o with config := value }
  | .separator => .ok { o with separator := some value }
  | .ignore => .ok { o with ignore := o.ignore ++ [value] }
  | .debug => switch fun b => { o with debug := b }
  | .help => switch fun b => { o with help := b }
  | .dryRun => switch fun b => { o with dryRun := b }

end Flag

/-- The flags a command knows. -/
abbrev Flags := List Flag

namespace Flags

def byName (known : Flags) (name : Bytes) : Option Flag := known.find? (·.name = name)

def byLetter (known : Flags) (letter : UInt8) : Option Flag := known.find? (·.letter? = some letter)

/-- The text before the first `=` and, if there is one, the text after it. -/
def splitAtEquals (s : Bytes) : Bytes × Option Bytes :=
  match s.dropWhile (· ≠ 0x3D) with
  | [] => (s, none)
  | _ :: value => (s.takeWhile (· ≠ 0x3D), some value)

/-- What is left to do after a cluster of letters: nothing, or a flag still wants its value. -/
inductive ClusterEnd where
  | complete (o : Options)
  | wants (f : Flag) (letter : UInt8) (cluster : Bytes) (o : Options)

/-- What the flags of a test runner begin with. -/
def testMark : Bytes := "test."

/-- Set the flags that a cluster of letters stands for. A flag with a value takes the rest of the
cluster as its value, and the flags of a test runner are passed over. -/
def readCluster (known : Flags) : Bytes → Options → Except UsageFault ClusterEnd
  | [], o => .ok (.complete o)
  | letter :: rest, o =>
    if testMark.isPrefixOf (letter :: rest) then .ok (.complete o)
    else
      match known.byLetter letter with
      | none => .error (.unknownLetter letter (letter :: rest))
      | some f =>
        match rest with
        | 0x3D :: b :: value => (f.set (b :: value) o).map .complete
        | _ =>
          if f.isSwitch then
            match f.set "true" o with
            | .ok o => readCluster known rest o
            | .error fault => .error fault
          else if rest = [] then .ok (.wants f letter [letter] o)
          else (f.set rest o).map .complete

/-- What is left to do after a long flag: nothing, or the flag still wants its value. -/
def readLong (known : Flags) (word : Bytes) (o : Options) : Except UsageFault (Options ⊕ Flag) :=
  let body := word.drop 2
  if body = [] ∨ body.head? = some 0x2D ∨ body.head? = some 0x3D then .error (.badSyntax word)
  else
    let (name, value) := splitAtEquals body
    match known.byName name, value with
    | none, _ => .error (.unknownFlag name)
    | some f, some value => (f.set value o).map .inl
    | some f, none => if f.isSwitch then (f.set "true" o).map .inl else .ok (.inr f)

/-- Whether a word is a flag: a lone dash is not. -/
def isFlag (word : Bytes) : Bool := word.head? == some 0x2D && word != [0x2D]

/-- Sort the words of a command line into flags, which are set, and arguments. Two dashes end the
flags. -/
def read (known : Flags) : (words : List Bytes) → Options → Except UsageFault (Options × List Bytes)
  | [], o => .ok (o, [])
  | word :: words, o =>
    if !isFlag word then (read known words o).map fun (o, args) => (o, word :: args)
    else if word = [0x2D, 0x2D] then .ok (o, words)
    else if (word.drop 1).head? = some 0x2D then
      match readLong known word o with
      | .error fault => .error fault
      | .ok (.inl o) => read known words o
      | .ok (.inr f) =>
        match words with
        | [] => .error (.flagNeedsValue f.name)
        | value :: words =>
          match f.set value o with
          | .error fault => .error fault
          | .ok o => read known words o
    else
      match readCluster known (word.drop 1) o with
      | .error fault => .error fault
      | .ok (.complete o) => read known words o
      | .ok (.wants f letter cluster o) =>
        match words with
        | [] => .error (.letterNeedsValue letter cluster)
        | value :: words =>
          match f.set value o with
          | .error fault => .error fault
          | .ok o => read known words o

end Flags
end Wordwalk.CommandLine
