import Wordwalk.Bytes

/-! What the program says about itself. -/
namespace Wordwalk.CommandLine

structure VersionInfo where
  version : Bytes := "dev"
  revision : Bytes := []
  modified : Bool := false
  built : Bytes := []
  toolchain : Bytes := []
  platform : Bytes := []

def VersionInfo.text (v : VersionInfo) : Bytes :=
  "treetools version info:\nVersion:   " ++ v.version ++
  "\nRevision:  " ++ v.revision ++ (if v.modified then " (modified)" else "") ++
  "\nBuilt:     " ++ v.built ++
  "\nGo:        " ++ v.toolchain ++
  "\nPlatform:  " ++ v.platform ++ "\n"

end Wordwalk.CommandLine
