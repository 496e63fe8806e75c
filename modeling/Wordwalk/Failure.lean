import Wordwalk.Disk.Basic
import Wordwalk.Replacement
import Wordwalk.Listing
import Wordwalk.Settings.Basic
import Wordwalk.CommandLine.Usage

/-! Why a run stopped. A failure keeps the chain of what it came from, so that callers can look for
a cause below any number of contexts. -/
namespace Wordwalk

/-- A failure: a cause, or a layer around another failure. -/
inductive Failure where
  /-- An error of which only the text is known. -/
  | plain (text : Bytes)
  | canceled
  | missing
  | denied
  | refused (refusal : Refusal)
  | replacement (fault : Replacement.Fault)
  | badPattern (pattern : Bytes)
  | settings (fault : Settings.Fault)
  | usage (fault : CommandLine.UsageFault)
  /-- The listing of `dir` makes no sense. -/
  | listing (dir : Bytes) (fault : Listing.Fault)
  /-- The file system operation `action` failed on `path`. -/
  | operation (action path : Bytes) (cause : Failure)
  /-- The failure of the phase `phase` of work on the file `path`. -/
  | file (path phase : Bytes) (cause : Failure)
  | within (context : Bytes) (cause : Failure)

namespace Failure

/-- The failure and all it wraps, outermost first. -/
def chain : Failure → List Failure
  | f@(.operation _ _ cause) | f@(.file _ _ cause) | f@(.within _ cause) => f :: cause.chain
  | f => [f]

/-- The path of a failed file system operation. -/
def operationPath? : Failure → Option Bytes
  | .operation _ path _ => some path
  | _ => none

def message : Failure → Bytes
  | .plain text => text
  | .canceled => "context canceled"
  | .missing => "file does not exist"
  | .denied => "permission denied"
  | .refused refusal => refusal.message
  | .replacement fault => fault.message
  | .badPattern pattern => "invalid ignore pattern " ++ pattern.quoted
  | .settings fault => fault.message
  | .usage fault => fault.message
  | .listing dir fault => "traversing " ++ dir ++ ": malformed directory listing: " ++ fault.reason
  | .operation action path cause => action ++ " " ++ path ++ ": " ++ cause.message
  | .file path phase cause =>
    if cause.chain.findSome? operationPath? = some path then cause.message
    else phase ++ " " ++ path ++ ": " ++ cause.message
  | .within context cause => context ++ ": " ++ cause.message

/-- What a caller can ask a failure about. -/
inductive Cause where
  | canceled
  | io
  | malformedListing
  | notExist
deriving DecidableEq

/-- The cause that a single layer of a failure stands for. -/
def cause? : Failure → Option Cause
  | .canceled => some .canceled
  | .file _ _ _ => some .io
  | .listing _ _ => some .malformedListing
  | .missing | .refused .noEntry => some .notExist
  | _ => none

/-- Whether some layer of the failure stands for the cause. -/
def is (f : Failure) (cause : Cause) : Bool := f.chain.any fun layer => layer.cause? == some cause

/-- The directory and the fault of a malformed listing in the chain. -/
def listing? (f : Failure) : Option (Bytes × Listing.Fault) :=
  f.chain.findSome? fun
    | .listing dir fault => some (dir, fault)
    | _ => none

/-- The path and the phase of the outermost file failure in the chain. -/
def file? (f : Failure) : Option (Bytes × Bytes) :=
  f.chain.findSome? fun
    | .file path phase _ => some (path, phase)
    | _ => none

end Failure

/-- The replacement applied to what a source gives, if it can be read to its end. -/
def Replacement.runFrom (r : Replacement) (source : Except Failure Bytes) :
    Except Failure Replaced :=
  match source with
  | .ok s => .ok (r.run s)
  | .error failure => .error (.within "reading content" failure)

end Wordwalk
