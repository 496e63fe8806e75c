import Wordwalk.Bytes

/-! Paths as texts: names with slashes between them. -/
namespace Wordwalk.Path

/-- The path of the entry `name` in the directory `dir`. -/
def join (dir name : Bytes) : Bytes :=
  if dir = [] then name
  else if dir.getLast? = some 0x2F then dir ++ name
  else dir ++ 0x2F :: name

/-- The text after the last slash. -/
def lastName (path : Bytes) : Bytes := (Bytes.splitOn 0x2F path).getLastD []

/-- The text from the last dot of the last name on, or nothing if it has no dot. -/
def extension (path : Bytes) : Bytes :=
  match Bytes.splitOn 0x2E (lastName path) with
  | [] | [_] => []
  | _ :: pieces => 0x2E :: pieces.getLastD []

end Wordwalk.Path
