import Exposure.Config.Basic
import Exposure.FileSystem.Resolve
import Exposure.Toml.Reader

/-!
The settings of a repository, from the file `expose.toml` in its root. Without the file all
settings have their defaults.
-/
namespace Exposure.Config

def fileName : String := "expose.toml"

/-- Why a file of settings is not accepted. -/
inductive LoadError where
  | notText (path : Path)
  | notToml (path : Path)
  /-- The text has an integer with too many digits. -/
  | longInteger (path : Path)
  | invalid (path : Path) (report : Schema.Report)
  deriving DecidableEq

/-- The message; text that is no UTF-8 and integers that are too long have none of their own. -/
def LoadError.message? : LoadError → Option String
  | notText _ => none
  | longInteger _ => none
  | notToml p => some ("Invalid TOML in " ++ toString p ++ ": <detail>")
  | invalid p r => some ("Invalid config in " ++ toString p ++ ": " ++ r.text)

/-- The settings in the text of a file. -/
def ofText (path : Path) (text : String) : Except LoadError Config :=
  match Toml.ofText text with
  | .error .malformed => .error (.notToml path)
  | .error .longInteger => .error (.longInteger path)
  | .ok ms => (ofMembers ms).mapError (LoadError.invalid path)

def load (fs : FileSystem) (root : Path) : Except LoadError Config :=
  let path := root.child fileName
  match fs.bytes? path with
  | none => .ok {}
  | some bytes =>
    match String.fromUTF8? bytes with
    | none => .error (.notText path)
    | some text => ofText path text

end Exposure.Config
