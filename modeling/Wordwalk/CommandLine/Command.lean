import Wordwalk.CommandLine.Flag

/-! The commands, and which of them a command line asks for. -/
namespace Wordwalk.CommandLine

/-- The name of the program. -/
def program : Bytes := "treetools"

/-- A command; `root` is the program itself. Those below `completion`, one for each shell, are left
out, and it answers for them. -/
inductive Command where
  | root
  | countLines
  | findAndReplace
  | listFiles
  | version
  | help
  | completion
deriving DecidableEq

namespace Command

def name : Command → Bytes
  | .root => program
  | .countLines => "count-lines"
  | .findAndReplace => "find-and-replace"
  | .listFiles => "list-files"
  | .version => "version"
  | .help => "help"
  | .completion => "completion"

/-- The name with that of the program before it. -/
def path : Command → Bytes
  | .root => program
  | c => program ++ " " ++ c.name

/-- The commands below the program. -/
def all : List Command := [.countLines, .findAndReplace, .listFiles, .version, .help, .completion]

/-- The command with a name. -/
def find? (word : Bytes) : Option Command := all.find? (·.name = word)

/-- The flags that every command takes. -/
def globalFlags : Flags := [.config, .debug, .ignore]

/-- The flags of a command itself, apart from the one for help. -/
def ownFlags : Command → Flags
  | .findAndReplace => [.dryRun, .separator]
  | _ => []

/-- Whether a flag takes the word after it as its value when the command is looked for. A flag that
is not known is taken to do so; the one for help is not known yet. -/
def takesNext (known : Flags) (word : Bytes) : Bool :=
  if 0x3D ∈ word then false
  else if [0x2D, 0x2D].isPrefixOf word then !(known.byName (word.drop 2)).any Flag.isSwitch
  else
    match word with
    | [0x2D, letter] => !(known.byLetter letter).any Flag.isSwitch
    | _ => false

/-- The words that are not flags or their values, up to two dashes. -/
def plainWords (known : Flags) : List Bytes → List Bytes
  | [] => []
  | word :: words =>
    if word = [0x2D, 0x2D] then []
    else if takesNext known word then
      match words with
      | [] | [_] => []
      | _ :: words => plainWords known words
    else if word ≠ [] ∧ word.head? ≠ some 0x2D then word :: plainWords known words
    else plainWords known words

/-- The words without the first that is equal to `target` and neither a flag nor its value. -/
def without (known : Flags) (target : Bytes) : List Bytes → List Bytes
  | [] => []
  | word :: words =>
    if word = [0x2D, 0x2D] then word :: words
    else if takesNext known word then
      match words with
      | [] => [word]
      | value :: words => word :: value :: without known target words
    else if word.head? ≠ some 0x2D ∧ word = target then words
    else word :: without known target words

/-- The number of single-byte insertions, deletions and substitutions that turn one text into
another. -/
def editDistance (s t : Bytes) : Nat :=
  let firstRow := List.range (t.length + 1)
  let nextRow (row : List Nat) (b : UInt8) : List Nat :=
    match row with
    | [] => []
    | corner :: rest =>
      let step (acc : List Nat × Nat × Nat) (cell : UInt8 × Nat) : List Nat × Nat × Nat :=
        let (done, diagonal, left) := acc
        let value :=
          if b = cell.1 then diagonal else 1 + min diagonal (min left cell.2)
        (value :: done, cell.2, value)
      let (done, _, _) := (t.zip rest).foldl step ([corner + 1], corner, corner + 1)
      done.reverse
  (s.foldl nextRow firstRow).getLastD 0

/-- Whether a word looks like a slip for a name: it begins it, or few letters differ. Case does not
count. -/
def resembles (word name : Bytes) : Bool :=
  editDistance word.lower name.lower ≤ 2 || word.lower.isPrefixOf name.lower

/-- The commands that an unknown word may have been meant for. -/
def suggestions (word : Bytes) : List Bytes :=
  ((all.filter (· ≠ .help)).map name).filter (resembles word)

/-- The command that the words ask for and the words left for it. -/
def select (words : List Bytes) : Except UsageFault (Command × List Bytes) :=
  match plainWords globalFlags words with
  | [] => .ok (.root, words)
  | word :: _ =>
    match find? word with
    | some c => .ok (c, without globalFlags word words)
    | none => .error (.unknownCommand word program (suggestions word))

/-- Check the number of arguments. -/
def checkArgs (c : Command) (args : List Bytes) : Except UsageFault Unit :=
  match c, args with
  | .countLines, _ :: _ :: _ | .listFiles, _ :: _ :: _ => .error (.tooMany 1 args.length)
  | .findAndReplace, [_, _] | .findAndReplace, [_, _, _] => .ok ()
  | .findAndReplace, _ => .error (.outOfRange 2 3 args.length)
  | .version, word :: _ => .error (.unknownCommand word c.path [])
  | _, _ => .ok ()

end Command

/-- The argument at an index, or the working directory if there are not so many. -/
def rootArg (args : List Bytes) (i : Nat) : Bytes := args[i]?.getD "."

/-- The argument at an index, which cannot be negative. -/
def rootArgAt (args : List Bytes) : (i : Int) → Except Bytes Bytes
  | .ofNat i => .ok (rootArg args i)
  | .negSucc i => .error ("runtime error: index out of range [-" ++ Bytes.ofNat (i + 1) ++ "]")

end Wordwalk.CommandLine
