import Wordwalk.Bytes

/-! A file system: directories, files and symbolic links, each at a place below the top
directory. Files keep their modes. Whether a file may be read or written is not read off its mode,
as it depends on who asks and on how the file system was mounted; the disk says it for each file.
Every directory can be searched and listed. -/
namespace Wordwalk

/-- Where an entry is: its own name first, then that of its directory, and so on up to the top. -/
abbrev Place := List Bytes

inductive Entry where
  | dir
  | file (content : Bytes) (mode : Nat)
  | link (target : Bytes)
deriving DecidableEq

/-- The ways in which the file system refuses a path. -/
inductive Refusal where
  | noEntry
  | notDirectory
  | isDirectory
  | tooManyLinks
  | nameTooLong
  | invalid
  | denied
  | readOnly
  | busy
deriving DecidableEq

def Refusal.message : Refusal → Bytes
  | .noEntry => "no such file or directory"
  | .notDirectory => "not a directory"
  | .isDirectory => "is a directory"
  | .tooManyLinks => "too many levels of symbolic links"
  | .nameTooLong => "file name too long"
  | .invalid => "invalid argument"
  | .denied => "permission denied"
  | .readOnly => "read-only file system"
  | .busy => "text file busy"

/-- What a file is opened for. -/
inductive Access where
  | read
  | write
deriving DecidableEq

/-- What bars the files at some places from being opened. -/
class Bars where
  refusal? : Access → Place → Option Refusal

/-- If nothing else is said no file is barred. -/
instance : Bars := ⟨fun _ _ => none⟩

/-- The entries below the top directory, the directory that relative paths start from, and what
bars its files. -/
structure Disk where
  home : Place
  entries : List (Place × Entry)
  [bars : Bars]

namespace Disk

/-- The entry at a place; the top is a directory. -/
def lookup (d : Disk) : Place → Option Entry
  | [] => some .dir
  | place => d.entries.lookup place

/-- Why the file at a place is refused when it is opened for an access, if it is. -/
def refusal? (d : Disk) (access : Access) (place : Place) : Option Refusal :=
  d.bars.refusal? access place

/-- The names and entries directly inside a directory, sorted by name. -/
def children (d : Disk) (dir : Place) : List (Bytes × Entry) :=
  (d.entries.filterMap fun
    | (name :: parent, entry) => if parent = dir then some (name, entry) else none
    | ([], _) => none).mergeSort fun a b => Bytes.le a.1 b.1

/-- Change the content of the file at a place. -/
def setContent (d : Disk) (place : Place) (content : Bytes) : Disk :=
  { d with entries := d.entries.map fun
      | (p, .file old mode) => (p, .file (if p = place then content else old) mode)
      | other => other }

/-- Whether a place is `top` or lies below it. -/
def within (top place : Place) : Bool := top.isSuffixOf place

/-- Put an entry at a place, over what was there. -/
def insert (d : Disk) (place : Place) (entry : Entry) : Disk :=
  { d with entries := d.entries.filter (·.1 ≠ place) ++ [(place, entry)] }

/-- Remove the entry at a place and all that lies below it. -/
def erase (d : Disk) (place : Place) : Disk :=
  { d with entries := d.entries.filter fun e => !within place e.1 }

end Disk
end Wordwalk
