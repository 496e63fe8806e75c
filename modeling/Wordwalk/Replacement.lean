import Wordwalk.Text.Token
import Wordwalk.Text.Quoted

/-! Swapping whole tokens of a text. The tokens are joined again with a separator, so white space of
the text is lost whether or not a token was swapped. -/
namespace Wordwalk

/-- Swap every token equal to `find` for `replace` and put `separator` between the tokens. -/
structure Replacement where
  find : Bytes
  replace : Bytes
  separator : Bytes := []

/-- What a replacement makes of a text. -/
structure Replaced where
  content : Bytes
  tokens : Nat
  replacements : Nat
  modified : Bool

namespace Replacement

/-- Why a replacement can never match a token. -/
inductive Fault where
  | emptyFind
  | blankFind (find : Bytes)

def Fault.message : Fault → Bytes
  | .emptyFind => "find text is required"
  | .blankFind find =>
    "find text " ++ find.quoted ++ " contains whitespace and can never match a token"

/-- A replacement is valid if some text has the text to find as a token. -/
def validate (r : Replacement) : Except Fault Unit :=
  if r.find = [] then .error .emptyFind
  else if hasBlank r.find then .error (.blankFind r.find)
  else .ok ()

/-- What stands in the place of a token. -/
def swap (r : Replacement) (token : Bytes) : Bytes := if token = r.find then r.replace else token

/-- The text after the replacement. -/
def apply (r : Replacement) (s : Bytes) : Bytes := Bytes.join r.separator ((tokens s).map r.swap)

/-- The text after the replacement, with what was counted on the way. -/
def run (r : Replacement) (s : Bytes) : Replaced where
  content := r.apply s
  tokens := (tokens s).length
  replacements := (tokens s).countP (· = r.find)
  modified := r.apply s ≠ s

end Replacement
end Wordwalk
