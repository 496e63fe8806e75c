import Wordwalk.Text.Quoted

/-! What a scan of a directory reports, and when such a report makes sense. -/
namespace Wordwalk

/-- The names of the entries of a directory: its sub-directories and everything else. -/
structure Listing where
  dir : Bytes
  subDirs : List Bytes
  files : List Bytes

namespace Listing

inductive Kind where
  | directory
  | file

def Kind.name : Kind → Bytes
  | .directory => "directory"
  | .file => "file"

/-- What is wrong with a listing. -/
inductive Fault where
  | wrongDir (dir : Bytes)
  | emptyName (kind : Kind)
  | notEntry (kind : Kind) (name : Bytes)
  | hasSlash (kind : Kind) (name : Bytes)
  | repeated (name : Bytes)

def Fault.reason : Fault → Bytes
  | .wrongDir dir => "listing is for " ++ dir.quoted
  | .emptyName kind => "empty " ++ kind.name ++ " name"
  | .notEntry kind name => kind.name ++ " name " ++ name.quoted ++ " is not an entry"
  | .hasSlash kind name => kind.name ++ " name " ++ name.quoted ++ " contains a path separator"
  | .repeated name => "entry " ++ name.quoted ++ " listed more than once"

/-- The fault in the shape of a single name. -/
def nameFault (kind : Kind) (name : Bytes) : Option Fault :=
  if name = [] then some (.emptyName kind)
  else if name = [0x2E] ∨ name = [0x2E, 0x2E] then some (.notEntry kind name)
  else if 0x2F ∈ name then some (.hasSlash kind name)
  else none

/-- The first fault among entries that follow those already `seen`. -/
def entryFault (seen : List Bytes) : List (Kind × Bytes) → Option Fault
  | [] => none
  | (kind, name) :: entries =>
    match nameFault kind name with
    | some fault => some fault
    | none => if name ∈ seen then some (.repeated name) else entryFault (name :: seen) entries

/-- All entries, sub-directories first. -/
def entries (l : Listing) : List (Kind × Bytes) :=
  l.subDirs.map (Kind.directory, ·) ++ l.files.map (Kind.file, ·)

/-- The first fault of a listing that was asked for `dir`. -/
def fault? (l : Listing) (dir : Bytes) : Option Fault :=
  if l.dir ≠ dir then some (.wrongDir l.dir) else entryFault [] l.entries

end Listing
end Wordwalk
