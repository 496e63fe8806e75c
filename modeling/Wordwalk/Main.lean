import Wordwalk.CommandLine.Run

/-! The program. It takes in the files below the working directory and below the paths on the
command line, runs on them, writes back the files that changed, and prints. -/
namespace Wordwalk.Program

/-- The place of an absolute path. -/
def placeOf (path : String) : Place := (Path.names (Bytes.ofString path)).reverse

/-- The directories down to a place. -/
def dirs : Place → List (Place × Entry)
  | [] => []
  | name :: place => (name :: place, .dir) :: dirs place

/-- Where a link leads. One that leads nowhere has a target that no entry can have as its name, and
one that leads in a circle has itself. -/
def targetOf (link : IO.FS.DirEntry) : IO Bytes := do
  try
    let _ ← link.path.metadata
    pure (Bytes.ofString (← IO.FS.realPath link.path).toString)
  catch
    | .noFileOrDirectory .. => pure [0]
    | _ => pure (Bytes.ofString link.path.toString)

/-- The entries of a directory and of all directories below it. -/
partial def gather (place : Place) (children : Array IO.FS.DirEntry) :
    IO (List (Place × Entry)) := do
  let mut found := []
  for child in children do
    let here := Bytes.ofString child.fileName :: place
    match (← child.path.symlinkMetadata).type with
    | .dir =>
      let below ← gather here (← child.path.readDir)
      found := (here, .dir) :: below ++ found
    | .symlink =>
      found := (here, .link (← targetOf child)) :: found
    | _ =>
      let content ← IO.FS.readBinFile child.path
      found := (here, .file content.toList 0o644) :: found
  pure found

/-- The places of which all below is known, and the entries found there. -/
structure Known where
  roots : List Place := []
  entries : List (Place × Entry) := []

/-- What is at a path and below it, in addition to what is known already. -/
def Known.add (known : Known) (path : String) : IO Known := do
  try
    let path ← IO.FS.realPath path
    let place := placeOf path.toString
    let others := known.entries.filter fun e => !Disk.within place e.1
    if known.roots.any fun root => Disk.within root place then pure known
    else
      match (← path.metadata).type with
      | .dir =>
        let below ← gather place (← path.readDir)
        pure ⟨place :: known.roots, dirs place ++ below ++ others⟩
      | .file =>
        let content ← IO.FS.readBinFile path
        let entry : Place × Entry := (place, .file content.toList 0o644)
        pure ⟨place :: known.roots, dirs place.tail ++ entry :: others⟩
      | _ => pure known
  catch _ => pure known

/-- The files that a command line can speak of. -/
def disk (words : List String) : IO Disk := do
  let home ← IO.FS.realPath "."
  let known ← ("." :: words).foldlM Known.add {}
  pure ⟨placeOf home.toString, known.entries⟩

end Wordwalk.Program

open Wordwalk in
/-- Run the program on the words of its command line. -/
def main (words : List String) : IO UInt32 := do
  let before ← Program.disk words
  let (t, code) :=
    CommandLine.runProcess { logColour := true, splitErrors := true } before
      (words.map Bytes.ofString)
  for (place, entry) in t.disk.entries do
    match entry with
    | .file content _ =>
      if before.lookup place ≠ some entry then
        let path := (0x2F : UInt8) :: Bytes.join [0x2F] place.reverse
        match String.fromUTF8? ⟨path.toArray⟩ with
        | some path => IO.FS.writeBinFile path ⟨content.toArray⟩
        | none => pure ()
    | _ => pure ()
  (← IO.getStdout).write ⟨t.stdout.toArray⟩
  (← IO.getStderr).write ⟨t.stderr.toArray⟩
  pure code.toUInt32
