import Wordwalk.Text.Blank
import Wordwalk.Text.Quoted
import Wordwalk.Glob.Basic

/-! The settings of a run and the ways in which a settings file can be wrong. -/
namespace Wordwalk

/-- Patterns of paths to leave out, and the text between rejoined tokens. -/
structure Settings where
  ignore : List Bytes := []
  separator : Bytes := []

namespace Settings

/-- The notations a settings file can be written in. -/
inductive Format where
  | yaml
  | hcl
  | json

/-- What is wrong with a settings file. HCL text can fail in its syntax or, once read, in what its
expressions give. -/
inductive Fault where
  | unreadable (format : Format)
  | undecodable
  | unknownExtension (ext : Bytes)
  | emptyPattern (index : Nat)
  | badPattern (index : Nat) (pattern : Bytes)

def Fault.message : Fault → Bytes
  | .unreadable .yaml => "parsing YAML"
  | .unreadable .hcl => "parsing HCL"
  | .unreadable .json => "parsing JSON"
  | .undecodable => "decoding HCL"
  | .unknownExtension ext => "unsupported config file extension " ++ ext.quoted
  | .emptyPattern i => "ignore[" ++ Bytes.ofNat i ++ "]: pattern is empty"
  | .badPattern i pattern => "ignore[" ++ Bytes.ofNat i ++ "]: invalid pattern " ++ pattern.quoted

/-- The fault of the first bad pattern of a list whose first index is `i`. -/
def patternFault (i : Nat) : List Bytes → Option Fault
  | [] => none
  | pattern :: patterns =>
    if pattern.isWhite then some (.emptyPattern i)
    else if Glob.wellFormed pattern then patternFault (i + 1) patterns
    else some (.badPattern i pattern)

/-- The first fault in the patterns to leave out. -/
def fault? (s : Settings) : Option Fault := patternFault 0 s.ignore

end Settings
end Wordwalk
