import Wordwalk.Console.Tag
import Wordwalk.Event

/-! The lines that a run shows, in colour or plain, and the events that go with them. -/
namespace Wordwalk.Console

inductive Style where
  | bold
  | faint
  | cyan
  | green

/-- The codes that switch a style on and off again. -/
def Style.codes : Style → Bytes × Bytes
  | .bold => ("\x1B[1m", "\x1B[22m")
  | .faint => ("\x1B[2m", "\x1B[22m")
  | .cyan => ("\x1B[36m", "\x1B[0m")
  | .green => ("\x1B[32m", "\x1B[0m")

/-- The text in a style, if colour is on. -/
def Style.paint (style : Style) (colour : Bool) (s : Bytes) : Bytes :=
  if colour then style.codes.1 ++ s ++ style.codes.2 else s

inductive Line where
  | foundLines (path : Bytes) (lines : Int)
  | lineTotal (lines files : Int)
  | workingOn (path : Bytes) (replacements : Int)
  | file (path : Bytes)
  | rule (width : Nat)
  | done (message : Bytes)

/-- The rule before the total of lines. -/
def countRule : Line := .rule 39

/-- The rule after the last file worked on. -/
def replaceRule : Line := .rule 25

/-- A rule of a given width, which cannot be negative. -/
def rule (width : Int) : Except Bytes Line :=
  if 0 ≤ width then .ok (.rule width.toNat) else .error "strings: negative Repeat count"

/-- The complaint of a program that has no console to write to. -/
def noConsole : Bytes := "logger not found in context"

namespace Line

/-- The line as it is shown, without its end. -/
def body (colour : Bool) : Line → Bytes
  | .foundLines path lines =>
    "found " ++ Style.bold.paint colour (Bytes.ofInt lines) ++ " lines in " ++
      Style.cyan.paint colour path ++ "."
  | .lineTotal lines files =>
    "found " ++ Style.bold.paint colour (Bytes.ofInt lines) ++ " lines in " ++
      Style.bold.paint colour (Bytes.ofInt files) ++ " files."
  | .workingOn path _ => "working on " ++ Style.cyan.paint colour path ++ "."
  | .file path => path
  | .rule width => Style.faint.paint colour (List.replicate width 0x2D)
  | .done message => Style.green.paint colour message

def text (colour : Bool) (line : Line) : Bytes := line.body colour ++ [0x0A]

/-- The event that goes with a line. -/
def event? : Line → Option Event
  | .foundLines path lines =>
    some { message := "counted lines", fields := [("file", .text path), ("lines", .number lines)] }
  | .lineTotal lines files =>
    some { message := "line count complete"
           fields := [("lines", .number lines), ("files", .number files)] }
  | .workingOn path n =>
    some { message := "rewrote file"
           fields := [("file", .text path), ("replacements", .number n)] }
  | .done message => some { message }
  | .file _ | .rule _ => none

end Line

/-- The report of the failure that ended a run. With a trace of where it arose, the trace follows
the message on a line of its own. -/
def errorReport (message : Bytes) (trace : Option Bytes := none) : Bytes :=
  let below : Bytes :=
    match trace with
    | none => []
    | some t => if message = [] ∨ message.getLast? = some 0x0A then t else 0x0A :: t
  "ERROR: " ++ Tag.strip (message ++ below ++ "\n")

end Wordwalk.Console
