import Wordwalk.CommandLine.Command

/-! The help texts. -/
namespace Wordwalk.CommandLine

/-- One line about a flag. -/
def Flag.describe (c : Command) : Flag → Bytes
  | .config => "settings file (.yaml, .yml, .hcl or .json)"
  | .debug => "enable debug logging"
  | .dryRun => "compute the rewrite without writing any file"
  | .help => "help for " ++ c.name
  | .ignore => "doublestar pattern of paths to skip, relative to the root (repeatable)"
  | .separator => "string placed between rejoined tokens"

/-- How a flag is written: its letter, its name and its value. -/
def Flag.form (f : Flag) : Bytes :=
  (match f.letter? with
    | some letter => "  -" ++ [letter] ++ ", --" ++ f.name
    | none => "      --" ++ f.name) ++
  (match f.valueName? with
    | some value => " " ++ value
    | none => [])

/-- A text with blanks after it up to a width. -/
def padded (width : Nat) (s : Bytes) : Bytes := s ++ List.replicate (width - s.length) 0x20

namespace Command

/-- One line about a command. -/
def summary : Command → Bytes
  | .root => "Small utilities for working on a local source tree"
  | .countLines => "Count lines per file and in total"
  | .findAndReplace => "Replace a whole word in every file, in place"
  | .listFiles => "Print every file the other commands would visit"
  | .version => "Print build information"
  | .help => "Help about any command"
  | .completion => "Generate the autocompletion script for the specified shell"

/-- All about a command. -/
def description : Command → Bytes
  | .root =>
    "treetools enumerates the files under a directory and either counts\n" ++
    "their lines or replaces a whole word in all of them, in place."
  | .countLines =>
    "Count-lines reports the number of newline separated lines of every file\n" ++
    "under root_path (default \".\").\n" ++
    "A trailing newline counts as one more, empty, line."
  | .findAndReplace =>
    "Find-and-replace rewrites every file under root_path (default \".\").\n" ++
    "It will:\n" ++
    "1. Split the file content into whitespace separated tokens\n" ++
    "2. Swap every token exactly equal to <find> for <replace>\n" ++
    "3. Join the tokens back together and overwrite the file\n\n" ++
    "Tokens are joined with no separator unless --separator is given, so the\n" ++
    "original whitespace of every file is lost, matched or not."
  | .help =>
    "Help provides help for any command in the application.\n" ++
    "Simply type treetools help [path to command] for full details."
  | .completion =>
    "Generate the autocompletion script for treetools for the specified shell.\n" ++
    "See each sub-command's help for details on how to use the generated script."
  | c => c.summary

/-- The arguments of a command. -/
def arguments : Command → Bytes
  | .countLines | .listFiles => " [root_path]"
  | .findAndReplace => " <find> <replace> [root_path]"
  | .help => " [command]"
  | _ => []

/-- The names and summaries of the commands below a command, in the order of their names, and the
width of the column of names. -/
def subCommands : Command → Nat × List (Bytes × Bytes)
  | .root =>
    (16, [.completion, .countLines, .findAndReplace, .help, .listFiles, .version].map
      fun c : Command => (c.name, c.summary))
  | .completion =>
    (11, ["bash", "fish", "powershell", "zsh"].map fun shell =>
      (Bytes.ofString shell, "Generate the autocompletion script for " ++ shell))
  | _ => (0, [])

/-- The lines about some flags, with the descriptions in one column. -/
def flagLines (c : Command) (flags : Flags) : Bytes :=
  let width := (flags.map (·.form.length)).foldl max 0
  flags.flatMap fun f => (padded width f.form ++ "   " ++ f.describe c ++ "\n" : Bytes)

/-- The flags shown as those of the command itself. -/
def localFlags (c : Command) (withHelp : Bool) : Flags :=
  let help : Flags := if withHelp then [.help] else []
  match c with
  | .root => [.config, .debug] ++ help ++ [.ignore]
  | .findAndReplace => [.dryRun] ++ help ++ [.separator]
  | _ => help

/-- How to use a command. -/
def usage (c : Command) (withHelp : Bool) : Bytes :=
  let (width, below) := c.subCommands
  let form : Bytes :=
    if below.isEmpty then c.path ++ c.arguments ++ " [flags]" else c.path ++ " [command]"
  let commands : Bytes :=
    if below.isEmpty then []
    else
      "\nAvailable Commands:\n" ++ below.flatMap fun (name, summary) =>
        ("  " ++ padded width name ++ " " ++ summary ++ "\n" : Bytes)
  let own : Bytes := "\nFlags:\n" ++ c.flagLines (c.localFlags withHelp)
  let global : Bytes :=
    if c = .root then [] else "\nGlobal Flags:\n" ++ c.flagLines globalFlags
  let more : Bytes :=
    if below.isEmpty then []
    else "\nUse \"" ++ c.path ++ " [command] --help\" for more information about a command.\n"
  "Usage:\n  " ++ form ++ "\n" ++ commands ++ own ++ global ++ more

/-- The help text of a command. -/
def helpText (c : Command) : Bytes := c.description ++ "\n\n" ++ c.usage true

/-- The answer to a request for help on words that name no command. -/
def unknownTopic (words : List Bytes) : Bytes :=
  "Unknown help topic [" ++ Bytes.join " " (words.map Bytes.backquoted) ++ "]\n" ++
    usage .root false

end Command
end Wordwalk.CommandLine
