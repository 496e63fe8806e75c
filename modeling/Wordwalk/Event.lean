import Wordwalk.Failure

/-! The log of a run: what it did, step by step. -/
namespace Wordwalk

namespace Event

inductive Level where
  | debug
  | trace

/-- The value of a field. How long something took is left open. -/
inductive Value where
  | text (s : Bytes)
  | number (n : Int)
  | flag (b : Bool)
  | texts (ss : List Bytes)
  | failure (f : Failure)
  | duration

end Event

/-- One line of the log. -/
structure Event where
  level : Event.Level := .debug
  message : Bytes
  fields : List (String × Event.Value) := []

end Wordwalk
