import Wordwalk.Disk.Access
import Wordwalk.Operation.Basic
import Wordwalk.Text.Lines

/-! Counting the lines of files. -/
namespace Wordwalk

/-- The files counted so far with their lines, what was signalled, and the failure that ended it. -/
structure CountRun where
  files : List (Bytes × Nat) := []
  signals : List Signal := []
  failure : Option Failure := none

namespace CountRun

/-- All lines counted. -/
def total (r : CountRun) : Nat := r.files.foldr (fun file n => file.2 + n) 0

/-- The name of the operation. -/
def name : Bytes := "count-lines"

/-- Count the lines of the files at `paths`, after `n` files are done. -/
def count (d : Disk) (l : Listener) : (n : Nat) → (paths : List Bytes) → CountRun
  | _, [] => {}
  | n, path :: paths =>
    if l.cancelled n then { failure := some (stoppedBefore path) }
    else
      match d.read path with
      | .error f => { failure := some (.file path "read" f) }
      | .ok content =>
        let lines := lineCount content
        let rest := count d l (n + 1) paths
        { rest with
          files := (path, lines) :: rest.files
          signals := l.notify path lines ++ rest.signals }

end CountRun

/-- Count the lines of the files at `paths`. -/
def countLines (d : Disk) (l : Listener) (paths : List Bytes) : CountRun :=
  let run := CountRun.count d l 0 paths
  let began : Event :=
    { message := "counting lines", fields := [("files", .number paths.length)] }
  { run with signals := .event began :: run.signals }

end Wordwalk
