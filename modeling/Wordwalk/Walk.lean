import Wordwalk.Event
import Wordwalk.Glob.Match
import Wordwalk.Path

/-! Enumerating the files below a root: a directory's own files first, then its sub-directories in
the order of its listing. Entries that an ignore pattern takes are left out, directories with all
they hold. -/
namespace Wordwalk

/-- The answer to a request for the listing of a directory, with what it logged. -/
structure Scan where
  events : List Event := []
  outcome : Except Failure Listing

/-- A source of listings. An answer may depend on the directories scanned before. -/
abbrev Scanner := (scanned : List Bytes) → (dir : Bytes) → Scan

/-- Where listings come from, what is left out, and after how many scans the walk is cancelled. -/
structure Walker where
  scanner : Scanner
  ignore : List Bytes
  cancelAfter : Option Nat := none

/-- Why a walk ended early. -/
inductive Stop where
  | failed (failure : Failure)
  /-- The directories are nested more deeply than the walk was allowed to go. -/
  | tooDeep

/-- What a walk of part of the tree found and did. -/
structure Walk where
  files : List Bytes := []
  scanned : List Bytes := []
  events : List Event := []
  stop : Option Stop := none

namespace Walk

/-- One walk after another; after a walk that ended early nothing follows. -/
def andThen (w : Walk) (next : Walk) : Walk :=
  match w.stop with
  | some _ => w
  | none =>
    { files := w.files ++ next.files, scanned := w.scanned ++ next.scanned
      events := w.events ++ next.events, stop := next.stop }

end Walk

/-- Whether a pattern takes the path. -/
def ignored (patterns : List Bytes) (rel : Bytes) : Bool :=
  patterns.any fun pattern => Glob.matches? pattern rel == some true

namespace Walker

/-- A walker, if all of the patterns are well formed. -/
def make (scanner : Scanner) (ignore : List Bytes) (cancelAfter : Option Nat := none) :
    Except Failure Walker :=
  match ignore.find? fun pattern => !Glob.wellFormed pattern with
  | some pattern => .error (.badPattern pattern)
  | none => .ok { scanner, ignore, cancelAfter }

/-- Whether the walk is cancelled once `n` scans have begun. -/
def cancelled (w : Walker) (n : Nat) : Bool := w.cancelAfter.any (· ≤ n)

/-- The files of a listing that are kept. -/
def keptFiles (w : Walker) (dir rel : Bytes) (listing : Listing) : List Bytes :=
  (listing.files.filter fun name => !ignored w.ignore (Path.join rel name)).map (Path.join dir)

/-- Walk the sub-directories `names` of `dir` in order, each with `visit`, after those `scanned`. -/
def visitAll (w : Walker) (visit : List Bytes → Bytes → Bytes → Walk) (dir rel : Bytes) :
    (scanned : List Bytes) → (names : List Bytes) → Walk
  | _, [] => {}
  | scanned, name :: names =>
    if ignored w.ignore (Path.join rel name) then
      Walk.andThen
        { events := [{ message := "directory ignored by pattern"
                       fields := [("dir", .text (Path.join rel name))] }] }
        (w.visitAll visit dir rel scanned names)
    else
      let first := visit scanned (Path.join dir name) (Path.join rel name)
      first.andThen (w.visitAll visit dir rel (scanned ++ first.scanned) names)

/-- Walk the directory `dir`, whose path below the root is `rel`, and at most `depth` levels of
directories below it, after those `scanned`. -/
def visit (w : Walker) : (depth : Nat) → (scanned : List Bytes) → (dir rel : Bytes) → Walk
  | depth, scanned, dir, rel =>
    if w.cancelled scanned.length then
      { stop := some (.failed (.within ("walking " ++ dir) .canceled)) }
    else
      let scan := w.scanner scanned dir
      let done : Walk := { scanned := [dir], events := scan.events }
      match scan.outcome with
      | .error failure =>
        { done with stop := some (.failed (.within ("scanning " ++ dir) failure)) }
      | .ok listing =>
        match listing.fault? dir with
        | some fault => { done with stop := some (.failed (.listing dir fault)) }
        | none =>
          let below :=
            match depth with
            | 0 => fun _ _ _ => { stop := some .tooDeep }
            | depth + 1 => w.visit depth
          Walk.andThen { done with files := w.keptFiles dir rel listing }
            (w.visitAll below dir rel (scanned ++ [dir]) listing.subDirs)

/-- Enumerate the files below `root`, at most `depth` levels of directories deep. A walk that ends
early has no files. -/
def enumerate (w : Walker) (depth : Nat) (root : Bytes) : Walk :=
  let walk := w.visit depth [] root []
  let began : Event := { message := "enumerating files", fields := [("root", .text root)] }
  match walk.stop with
  | some _ => { walk with files := [], events := began :: walk.events }
  | none =>
    let ended : Event :=
      { message := "enumeration complete"
        fields := [("root", .text root), ("files", .number walk.files.length)] }
    { walk with events := began :: walk.events ++ [ended] }

end Walker
end Wordwalk
