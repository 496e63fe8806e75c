import Wordwalk.Disk.Access
import Wordwalk.Operation.Basic

/-! Replacing tokens of files in place. -/
namespace Wordwalk

/-- What a replacement did to a file: some token was replaced, or only the white space between
tokens changed, or nothing did. -/
inductive FileStatus where
  | rewritten
  | reformatted
  | unchanged

namespace FileStatus

def name : FileStatus → Bytes
  | .rewritten => "rewritten"
  | .reformatted => "reformatted"
  | .unchanged => "unchanged"

def of (replacements : Int) (modified : Bool) : FileStatus :=
  if 0 < replacements then .rewritten else if modified then .reformatted else .unchanged

/-- The name of the status with a number; other numbers stand for none. -/
def nameOfNumber : Int → Bytes
  | 1 => name .rewritten
  | 2 => name .reformatted
  | 3 => name .unchanged
  | _ => "unknown"

end FileStatus

/-- What a replacement did to the file at a path. -/
structure FileOutcome where
  path : Bytes
  status : FileStatus
  replacements : Nat

/-- How to replace: whether to leave the files as they are, who listens, and what else happens to
the disk between the reading and the writing of the file with a number. -/
structure ReplaceOptions where
  dryRun : Bool := false
  listener : Listener := {}
  meanwhile : Nat → Disk → Disk := fun _ d => d

/-- The disk after a replacement, what was done to each file, what was signalled, and the failure
that ended it. -/
structure ReplaceRun where
  disk : Disk
  files : List FileOutcome := []
  signals : List Signal := []
  failure : Option Failure := none

/-- The report of a run: what was done to each file, all tokens replaced, and whether the files were
left as they are. -/
structure ReplaceReport where
  files : List FileOutcome
  replacements : Nat
  dryRun : Bool

namespace ReplaceRun

/-- All tokens replaced. -/
def replacements (r : ReplaceRun) : Nat := r.files.foldr (fun file n => file.replacements + n) 0

/-- What a run with the given options reports, also if it failed. -/
def report (opts : ReplaceOptions) (r : ReplaceRun) : ReplaceReport :=
  ⟨r.files, r.replacements, opts.dryRun⟩

/-- The name of the operation. -/
def name : Bytes := "find-and-replace"

/-- Replace in the files at `paths`, after `n` files are done. -/
def replace (r : Replacement) (opts : ReplaceOptions) : (n : Nat) → Disk → List Bytes → ReplaceRun
  | _, d, [] => { disk := d }
  | n, d, path :: paths =>
    if opts.listener.cancelled n then { disk := d, failure := some (stoppedBefore path) }
    else
      match d.read path with
      | .error f => { disk := d, failure := some (.file path "read" f) }
      | .ok content =>
        let result := r.run content
        let split : Signal := .event
          { level := .trace, message := "rewrote token stream"
            fields := [("tokens", .number result.tokens),
              ("replacements", .number result.replacements)] }
        let d := opts.meanwhile n d
        match if opts.dryRun then .ok d else d.write path result.content with
        | .error f => { disk := d, signals := [split], failure := some (.file path "write" f) }
        | .ok d =>
          let outcome : FileOutcome :=
            ⟨path, FileStatus.of result.replacements result.modified, result.replacements⟩
          let processed : Signal := .event
            { message := "file processed"
              fields := [("path", .text path), ("status", .text outcome.status.name),
                ("replacements", .number outcome.replacements)] }
          let rest := replace r opts (n + 1) d paths
          { rest with
            files := outcome :: rest.files
            signals := split :: processed ::
              opts.listener.notify path outcome.replacements ++ rest.signals }

end ReplaceRun

/-- Replace in the files at `paths` with a valid replacement. -/
def replaceInFiles (d : Disk) (r : Replacement) (opts : ReplaceOptions) (paths : List Bytes) :
    Except Failure ReplaceRun :=
  match r.validate with
  | .error fault => .error (.within "validating replacement" (.replacement fault))
  | .ok () =>
    let run := ReplaceRun.replace r opts 0 d paths
    let began : Event :=
      { message := "rewriting files"
        fields := [("find", .text r.find), ("replace", .text r.replace),
          ("files", .number paths.length), ("dry_run", .flag opts.dryRun)] }
    .ok { run with signals := .event began :: run.signals }

end Wordwalk
