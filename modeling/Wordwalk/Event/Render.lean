import Wordwalk.Event

/-! Events as lines of text: the message and then the fields by name, an error before all others. -/
namespace Wordwalk.Event

/-- Whether a value has to be quoted: it holds a blank, a quote, a backslash or a byte that is not
ASCII. -/
def needsQuotes (s : Bytes) : Bool := s.any fun b => b ≤ 0x20 || 0x7E < b || b == 0x22 || b == 0x5C

/-- A code point in a JSON string. -/
def jsonPoint (code : Nat) : Bytes :=
  match code with
  | 0x22 => "\\\""
  | 0x5C => "\\\\"
  | 0x08 => "\\b"
  | 0x0C => "\\f"
  | 0x0A => "\\n"
  | 0x0D => "\\r"
  | 0x09 => "\\t"
  | _ =>
    if code < 0x20 ∨ code = 0x2028 ∨ code = 0x2029 then "\\u" ++ Quoted.hex 4 code
    else Rune.encode code

/-- A text as a JSON string. -/
def jsonText (s : Bytes) : Bytes := "\"" ++ s.codes.flatMap jsonPoint ++ "\""

/-- A value as it stands after its name. -/
def Value.render : Value → Bytes
  | .text s => if needsQuotes s.scrub then s.scrub.quoted else s.scrub
  | .failure f => if needsQuotes f.message.scrub then f.message.scrub.quoted else f.message.scrub
  | .number n => Bytes.ofInt n
  | .flag b => if b then "true" else "false"
  | .texts ss => "[" ++ Bytes.join "," (ss.map jsonText) ++ "]"
  | .duration => "_"

/-- The fields in the order of their names, but a field `error` first. -/
def sortedFields (fields : List (String × Value)) : List (String × Value) :=
  fields.mergeSort fun a b => a.1 == "error" || (b.1 != "error" && decide (a.1 ≤ b.1))

/-- A field. In colour, the time that something took is left out with the code before it. -/
def renderField (colour : Bool) (field : String × Value) : Bytes :=
  let name : Bytes := field.1 ++ "="
  if colour then
    match field.2 with
    | .duration => "\x1B[36m" ++ name ++ field.2.render
    | .failure _ =>
      "\x1B[36m" ++ name ++ "\x1B[0m\x1B[31m\x1B[1m" ++ field.2.render ++ "\x1B[0m\x1B[0m"
    | _ => "\x1B[36m" ++ name ++ "\x1B[0m" ++ field.2.render
  else name ++ field.2.render

/-- The line of an event at the debugging level; a trace event has none. -/
def debugLine (colour : Bool) (e : Event) : Bytes :=
  match e.level with
  | .trace => []
  | .debug =>
    "DBG " ++ e.message ++
      (sortedFields e.fields).flatMap (fun field => 0x20 :: renderField colour field) ++ "\n"

end Wordwalk.Event
