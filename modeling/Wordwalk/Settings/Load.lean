import Wordwalk.Disk.Access
import Wordwalk.Settings.Hcl.Decode
import Wordwalk.Settings.Json
import Wordwalk.Settings.Yaml.Decode

/-! Reading settings from a file in one of three notations. -/
namespace Wordwalk.Settings

/-- The notation that the name of a file asks for. -/
def Format.of? (path : Bytes) : Option Format :=
  let ext := (Path.extension path).lower
  if ext = (".yaml" : Bytes) ∨ ext = (".yml" : Bytes) then some .yaml
  else if ext = (".hcl" : Bytes) then some .hcl
  else if ext = (".json" : Bytes) then some .json
  else none

/-- The settings that a text in a notation gives. -/
def Format.parse (format : Format) (text : Bytes) : Except Fault Settings :=
  match format with
  | .yaml => Yaml.parse text
  | .hcl => Hcl.parse text
  | .json => Json.parse text

/-- The settings in the file at a path, and what was logged on the way. -/
def load (d : Disk) (path : Bytes) : List Event × Except Failure Settings :=
  let began : Event := { message := "loading configuration", fields := [("path", .text path)] }
  match d.read path with
  | .error f => ([began], .error (.within "reading config file" f))
  | .ok text =>
    match Format.of? path with
    | none => ([began], .error (.settings (.unknownExtension (Path.extension path))))
    | some format =>
      match format.parse text with
      | .error fault => ([began], .error (.within "parsing config" (.settings fault)))
      | .ok settings =>
        match settings.fault? with
        | some fault => ([began], .error (.within "validating config" (.settings fault)))
        | none =>
          let loaded : Event :=
            { message := "configuration loaded"
              fields := [("ignore", .texts settings.ignore),
                ("separator", .text settings.separator)] }
          ([began, loaded], .ok settings)

end Wordwalk.Settings
