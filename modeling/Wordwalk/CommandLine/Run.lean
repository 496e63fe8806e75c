import Wordwalk.CommandLine.Help
import Wordwalk.CommandLine.Version
import Wordwalk.Console
import Wordwalk.Event.Render
import Wordwalk.Operation.Count
import Wordwalk.Operation.Replace
import Wordwalk.Settings.Load

/-! Running a command line: choose the command, set its flags, load the settings, do the work. -/
namespace Wordwalk.CommandLine

/-- Where the output goes: whether lines and log are coloured, and whether the answer to a request
for unknown help goes to the error stream. -/
structure Terminal where
  colour : Bool := false
  logColour : Bool := false
  splitErrors : Bool := false
  version : VersionInfo := {}

/-- What a run wrote, the disk after it, and the failure that ended it. -/
structure Transcript where
  disk : Disk
  stdout : Bytes := []
  stderr : Bytes := []
  failure : Option Failure := none

/-- The patterns of the settings, then those of the flags. -/
def ignorePatterns (settings : Settings) (o : Options) : List Bytes := settings.ignore ++ o.ignore

namespace Transcript

/-- More output on the standard stream. -/
def print (t : Transcript) (s : Bytes) : Transcript := { t with stdout := t.stdout ++ s }

/-- Events are written to the error stream if debugging is on. -/
def log (t : Transcript) (term : Terminal) (o : Options) (events : List Event) : Transcript :=
  if o.debug then
    { t with stderr := t.stderr ++ events.flatMap (Event.debugLine term.logColour) }
  else t

/-- A line on the console with the event that goes with it. -/
def display (t : Transcript) (term : Terminal) (o : Options) (line : Console.Line) : Transcript :=
  (t.print (line.text term.colour)).log term o line.event?.toList

/-- The signals of an operation, with a line for each notification. -/
def relay (t : Transcript) (term : Terminal) (o : Options)
    (line : Bytes → Nat → Console.Line) (signals : List Signal) : Transcript :=
  signals.foldl
    (fun t => fun
      | .event e => t.log term o [e]
      | .progress path n => t.display term o (line path n)) t

def fail (t : Transcript) (f : Failure) : Transcript := { t with failure := some f }

end Transcript

/-- Enumerate the files below `root`. -/
def enumerate (d : Disk) (patterns : List Bytes) (root : Bytes) :
    List Event × Except Failure (List Bytes) :=
  match d.walker patterns with
  | .error f => ([], .error (.within "creating walker" f))
  | .ok w =>
    let walk := w.enumerate d.depth root
    match walk.stop with
    | none => (walk.events, .ok walk.files)
    | some (.failed f) => (walk.events, .error (.within ("enumerating " ++ root) f))
    | some .tooDeep =>
      (walk.events, .error (.within ("enumerating " ++ root) (.refused .nameTooLong)))

/-- Count the lines of all files. -/
def runCount (term : Terminal) (o : Options) (t : Transcript) (files : List Bytes) : Transcript :=
  let run := countLines t.disk {} files
  let (signals, failure) := supervise CountRun.name run.signals run.failure
  let t := t.relay term o (fun path n => .foundLines path n) signals
  match failure with
  | some f => t.fail f
  | none =>
    (t.display term o Console.countRule).display term o (.lineTotal run.total run.files.length)

/-- Replace in all files. -/
def runReplace (term : Terminal) (o : Options) (t : Transcript) (r : Replacement)
    (files : List Bytes) : Transcript :=
  let (disk, runSignals, runFailure) :=
    match replaceInFiles t.disk r { dryRun := o.dryRun } files with
    | .ok run => (run.disk, run.signals, run.failure)
    | .error f => (t.disk, [], some f)
  let (signals, failure) := supervise ReplaceRun.name runSignals runFailure
  let t := Transcript.relay { t with disk } term o (fun path n => .workingOn path n) signals
  match failure with
  | some f => t.fail (.within ("replacing " ++ r.find.quoted) f)
  | none =>
    (t.display term o Console.replaceRule).display term o (.done "mission accomplished!")

/-- Enumerate the files below `root` and go on with them. -/
def withFiles (term : Terminal) (o : Options) (t : Transcript) (patterns : List Bytes)
    (root : Bytes) (next : Transcript → List Bytes → Transcript) : Transcript :=
  let (events, files) := enumerate t.disk patterns root
  let t := t.log term o events
  match files with
  | .error f => t.fail f
  | .ok files => next t files

/-- Answer a request for help on some words. -/
def runHelp (term : Terminal) (t : Transcript) (words : List Bytes) : Transcript :=
  match Command.select words with
  | .ok (c, _) => t.print c.helpText
  | .error _ =>
    if term.splitErrors then { t with stderr := t.stderr ++ Command.unknownTopic words }
    else t.print (Command.unknownTopic words)

/-- Do the work of a command. -/
def perform (term : Terminal) (c : Command) (o : Options) (settings : Settings) (args : List Bytes)
    (t : Transcript) : Transcript :=
  let patterns := ignorePatterns settings o
  match c with
  | .root | .completion => t
  | .version => t.print term.version.text
  | .help => runHelp term t args
  | .countLines => withFiles term o t patterns (rootArg args 0) (runCount term o)
  | .listFiles =>
    withFiles term o t patterns (rootArg args 0) fun t files =>
      files.foldl (fun t path => t.display term o (.file path)) t
  | .findAndReplace =>
    let r : Replacement :=
      ⟨rootArg args 0, rootArg args 1, o.separator.getD settings.separator⟩
    match r.validate with
    | .error fault => t.fail (.within "validating arguments" (.replacement fault))
    | .ok () =>
      withFiles term o t patterns (rootArg args 2) fun t files => runReplace term o t r files

/-- The settings that the flags name, and what was logged on the way. -/
def chosenSettings (d : Disk) (o : Options) : List Event × Except Failure Settings :=
  if o.config = [] then ([], .ok {}) else Settings.load d o.config

/-- Load the settings and do the work of a command. -/
def execute (term : Terminal) (d : Disk) (c : Command) (o : Options) (args : List Bytes) :
    Transcript :=
  let (events, settings) := chosenSettings d o
  let t := Transcript.log { disk := d } term o events
  match settings with
  | .error f => t.fail (.within "loading config" f)
  | .ok settings => perform term c o settings args t

/-- Run the program on the words of a command line. The scripts for the shells are left out:
`completion` with the name of a shell is answered with its help, as it is with none, and
`__complete`, by which such a script asks for the words that may follow, is a command that is not
known. -/
def run (term : Terminal) (d : Disk) (words : List Bytes) : Transcript :=
  let t : Transcript := { disk := d }
  match Command.select words with
  | .error fault => t.fail (.usage fault)
  | .ok (c, words) =>
    match Flags.read (c.ownFlags ++ Command.globalFlags ++ [.help]) words {} with
    | .error fault => t.fail (.usage fault)
    | .ok (o, args) =>
      if o.help ∨ c = .root ∨ c = .completion then t.print c.helpText
      else
        match c.checkArgs args with
        | .error fault => t.fail (.usage fault)
        | .ok () => execute term d c o args

/-- Run the program as a process: a failure is reported on the error stream and gives exit code
1. -/
def runProcess (term : Terminal) (d : Disk) (words : List Bytes) : Transcript × Nat :=
  let t := run term d words
  match t.failure with
  | none => (t, 0)
  | some f => ({ t with stderr := t.stderr ++ Console.errorReport f.message }, 1)

end Wordwalk.CommandLine
