import Wordwalk.Disk.Resolve
import Wordwalk.Walk

/-! Reading, writing and scanning by path. -/
namespace Wordwalk.Disk

/-- What comes of opening the file at a place, which `path` leads to: `a` if the file is not
barred. -/
def unlessBarred {α : Type} (d : Disk) (access : Access) (path : Bytes) (place : Place) (a : α) :
    Except Failure α :=
  match d.refusal? access place with
  | some refusal => .error (.operation "open" path (.refused refusal))
  | none => .ok a

/-- The content of the file that a path leads to. -/
def read (d : Disk) (path : Bytes) : Except Failure Bytes :=
  match d.locate path with
  | .error refusal => .error (.operation "open" path (.refused refusal))
  | .ok place =>
    match d.lookup place with
    | some (.file content _) => d.unlessBarred .read path place content
    | _ => .error (.operation "read" path (.refused .isDirectory))

/-- Write to the file that a path leads to, which keeps its mode. A file that does not exist is
made in an existing directory. A file that is barred is refused before any of it is lost. -/
def write (d : Disk) (path content : Bytes) : Except Failure Disk :=
  match d.locate path true with
  | .error refusal => .error (.operation "open" path (.refused refusal))
  | .ok place =>
    match d.lookup place with
    | some (.file _ _) => d.unlessBarred .write path place (d.setContent place content)
    | none => d.unlessBarred .write path place (d.insert place (.file content 0o644))
    | some _ => .error (.operation "open" path (.refused .isDirectory))

/-- Whether an entry of the directory `dir` is a link that leads to a directory. -/
def isDirLink (d : Disk) (dir name : Bytes) : Entry → Bool
  | .link _ => d.isDir (Path.join dir name)
  | _ => false

/-- The listing of the directory that a path leads to. A link to a directory is neither a
sub-directory nor a file. -/
def scan (d : Disk) (dir : Bytes) : Scan :=
  let refuse (refusal : Refusal) : Scan :=
    { outcome := .error
        (.within ("reading directory " ++ dir) (.operation "open" dir (.refused refusal))) }
  match d.locate dir with
  | .error refusal => refuse refusal
  | .ok place =>
    if d.lookup place ≠ some .dir then refuse .notDirectory
    else
      let (dirs, others) := (d.children place).partition (·.2 = .dir)
      let (links, files) := others.partition fun (name, entry) => d.isDirLink dir name entry
      { events := links.map fun (name, _) =>
          { message := "skipping directory symlink"
            fields := [("dir", .text dir), ("link", .text name)] }
        outcome := .ok ⟨dir, dirs.map (·.1), files.map (·.1)⟩ }

/-- A walker of the disk. -/
def walker (d : Disk) (ignore : List Bytes) (cancelAfter : Option Nat := none) :
    Except Failure Walker :=
  Walker.make (fun _ dir => d.scan dir) ignore cancelAfter

/-- The depth that a walk of the disk never exceeds. -/
def depth (d : Disk) : Nat := d.entries.length

/-- Make the directories along `names` below `here` that do not exist. -/
def makeDirs (d : Disk) (here : Place) : List Bytes → Disk
  | [] => d
  | name :: names =>
    if name = [0x2E] then d.makeDirs here names
    else
      match d.lookup (name :: here) with
      | none => (d.insert (name :: here) .dir).makeDirs (name :: here) names
      | some (.link target) =>
        match d.resolve false linkLimit (start here target) (Path.names target) with
        | .ok place => d.makeDirs place names
        | .error _ => d
      | some _ => d.makeDirs (name :: here) names

/-- The place of the last name of a path, which may be a link or not exist. -/
def placeOf (d : Disk) (path : Bytes) : Place :=
  match (Path.names path).reverse with
  | [] => start d.home path
  | last :: parents =>
    match d.resolve false linkLimit (start d.home path) parents.reverse with
    | .ok parent => last :: parent
    | .error _ => last :: (parents ++ start d.home path)

/-- Put an entry at a path, with the directories it needs. A file goes where the path leads. -/
def put (d : Disk) (path : Bytes) (entry : Entry) : Disk :=
  let parents := (Path.names path).dropLast
  let d := d.makeDirs (start d.home path) parents
  match entry with
  | .dir => d.makeDirs (start d.home path) (Path.names path)
  | .file content mode =>
    match d.locate path true with
    | .ok place => d.insert place (.file content mode)
    | .error _ => d
  | .link target => d.insert (d.placeOf path) (.link target)

/-- Remove what is at a path, with all below it. -/
def remove (d : Disk) (path : Bytes) : Disk := d.erase (d.placeOf path)

/-- The path of a place below the home directory. -/
def relative (d : Disk) (place : Place) : Bytes :=
  Bytes.join [0x2F] ((place.take (place.length - d.home.length)).reverse)

/-- Everything below the home directory by path, in the order of the paths. -/
def contents (d : Disk) : List (Bytes × Entry) :=
  ((d.entries.filter fun e => within d.home e.1 && e.1 ≠ d.home).map fun e =>
    (d.relative e.1, e.2)).mergeSort fun a b => Bytes.le a.1 b.1

/-- The files below the home directory that are not in `before` as they are now. -/
def changedSince (d before : Disk) : List (Bytes × Bytes) :=
  let old := before.contents
  d.contents.filterMap fun
    | (path, .file content _) =>
      match old.lookup path with
      | some (.file was _) => if was = content then none else some (path, content)
      | _ => some (path, content)
    | _ => none

end Wordwalk.Disk
