import Wordwalk.Text.Quoted

/-! The ways in which the words of a command line can be wrong. -/
namespace Wordwalk.CommandLine

inductive UsageFault where
  | unknownCommand (word parent : Bytes) (suggestions : List Bytes)
  | badSyntax (word : Bytes)
  | unknownFlag (name : Bytes)
  | unknownLetter (letter : UInt8) (cluster : Bytes)
  | flagNeedsValue (name : Bytes)
  | letterNeedsValue (letter : UInt8) (cluster : Bytes)
  | notBool (flag value : Bytes)
  | tooMany (most given : Nat)
  | outOfRange (least most given : Nat)

/-- The question that follows an unknown command, if a similar one exists. -/
def suggested (names : List Bytes) : Bytes :=
  if names.isEmpty then []
  else "\n\nDid you mean this?\n" ++ names.flatMap fun name => ("\t" ++ name ++ "\n" : Bytes)

def UsageFault.message : UsageFault → Bytes
  | .unknownCommand word parent suggestions =>
    "unknown command " ++ word.quoted ++ " for " ++ parent.quoted ++ suggested suggestions
  | .badSyntax word => "bad flag syntax: " ++ word
  | .unknownFlag name => "unknown flag: --" ++ name
  | .unknownLetter letter cluster =>
    "unknown shorthand flag: " ++ Quoted.letter letter.toNat ++ " in -" ++ cluster
  | .flagNeedsValue name => "flag needs an argument: --" ++ name
  | .letterNeedsValue letter cluster =>
    "flag needs an argument: " ++ Quoted.letter letter.toNat ++ " in -" ++ cluster
  | .notBool flag value =>
    "invalid argument " ++ value.quoted ++ " for " ++ flag.quoted ++
      " flag: strconv.ParseBool: parsing " ++ value.quoted ++ ": invalid syntax"
  | .tooMany most given =>
    "accepts at most " ++ Bytes.ofNat most ++ " arg(s), received " ++ Bytes.ofNat given
  | .outOfRange least most given =>
    "accepts between " ++ Bytes.ofNat least ++ " and " ++ Bytes.ofNat most ++
      " arg(s), received " ++ Bytes.ofNat given

end Wordwalk.CommandLine
