import Wordwalk.Disk.Basic
import Wordwalk.Failure
import Wordwalk.Path

/-! Finding the entry that a path names. Symbolic links on the way are followed, at most forty of
them. -/
namespace Wordwalk

/-- The names along a path. A slash at its end asks for a directory, as a final dot does. -/
def Path.names (path : Bytes) : List Bytes :=
  (Bytes.splitOn 0x2F path).filter (· ≠ []) ++ if path.getLast? = some 0x2F then [[0x2E]] else []

namespace Disk

/-- How many links may be followed on the way along one path. -/
def linkLimit : Nat := 40

/-- The longest name an entry can have. -/
def nameLimit : Nat := 255

/-- The length from which on a path is refused. -/
def pathLimit : Nat := 4096

/-- Where a path starts. -/
def start (here : Place) (path : Bytes) : Place := if path.head? = some 0x2F then [] else here

/-- Go along `names` from `here`, giving links to `follow`. If `create` holds, the last name may be
one that does not exist yet. -/
def along (d : Disk) (create : Bool) (follow : Place → List Bytes → Except Refusal Place) :
    (here : Place) → (names : List Bytes) → Except Refusal Place
  | here, [] => .ok here
  | here, name :: names =>
    if d.lookup here ≠ some .dir then .error .notDirectory
    else if name = [0x2E] then d.along create follow here names
    else if name = [0x2E, 0x2E] then d.along create follow here.tail names
    else if nameLimit < name.length then .error .nameTooLong
    else
      match d.lookup (name :: here) with
      | none => if create ∧ names = [] then .ok (name :: here) else .error .noEntry
      | some (.link target) => follow (start here target) (Path.names target ++ names)
      | some _ => d.along create follow (name :: here) names

/-- Go along `names` from `here`, following at most `links` links. -/
def resolve (d : Disk) (create : Bool) : (links : Nat) → Place → List Bytes → Except Refusal Place
  | 0 => d.along create fun _ _ => .error .tooManyLinks
  | links + 1 => d.along create (d.resolve create links)

/-- The place that a path leads to. -/
def locate (d : Disk) (path : Bytes) (create : Bool := false) : Except Refusal Place :=
  if 0 ∈ path then .error .invalid
  else if path = [] then .error .noEntry
  else if pathLimit ≤ path.length then .error .nameTooLong
  else d.resolve create linkLimit (start d.home path) (Path.names path)

/-- Whether a path leads to a directory. -/
def isDir (d : Disk) (path : Bytes) : Bool :=
  match d.locate path with
  | .ok place => d.lookup place = some .dir
  | .error _ => false

end Disk
end Wordwalk
