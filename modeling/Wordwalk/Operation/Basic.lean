import Wordwalk.Event

/-! Operations work through a list of files in order, tell a listener about each, and stop at the
first failure. -/
namespace Wordwalk

/-- What an operation tells the outside while it runs. -/
inductive Signal where
  | event (e : Event)
  /-- Work on the file is done; `n` counts its lines or its replacements. -/
  | progress (path : Bytes) (n : Nat)

namespace Signal

def event? : Signal → Option Event
  | .event e => some e
  | .progress _ _ => none

def progress? : Signal → Option (Bytes × Nat)
  | .event _ => none
  | .progress path n => some (path, n)

end Signal

/-- Who listens: whether anyone is told of progress, and after how many notifications the run is
cancelled. -/
structure Listener where
  present : Bool := true
  cancelAfter : Option Nat := none

namespace Listener

/-- Whether the run is cancelled once `n` files are done. Only notifications count. -/
def cancelled (l : Listener) (n : Nat) : Bool :=
  l.cancelAfter.any (· ≤ if l.present then n else 0)

/-- The notification about a file, if anyone listens. -/
def notify (l : Listener) (path : Bytes) (n : Nat) : List Signal :=
  if l.present then [.progress path n] else []

end Listener

/-- The failure of a run that is cancelled before the file at `path`. -/
def stoppedBefore (path : Bytes) : Failure := .within ("stopping before " ++ path) .canceled

/-- Run an operation under a name: log its begin and its end, and name it in its failure. -/
def supervise (name : Bytes) (signals : List Signal) (failure : Option Failure) :
    List Signal × Option Failure :=
  let operation : String × Event.Value := ("operation", .text name)
  let began : Signal := .event { message := "starting operation", fields := [operation] }
  match failure with
  | none =>
    let ended : Event :=
      { message := "operation complete", fields := [operation, ("elapsed", .duration)] }
    (began :: signals ++ [.event ended], none)
  | some f =>
    let ended : Event :=
      { message := "operation failed"
        fields := [operation, ("elapsed", .duration), ("error", .failure f)] }
    (began :: signals ++ [.event ended], some (.within ("running " ++ name) f))

end Wordwalk
