import Exposure.FileSystem.Path
import Exposure.ModuleRule
import Exposure.Pattern.Parser
import Exposure.Schema

/-!
The settings of a discovery and how they are read from a document. Every setting has a default;
no other key is accepted, and all that is wrong is reported at once.
-/
namespace Exposure

/-- File names that a module can have. -/
def defaultFilePattern : String := "^[A-Za-z_][A-Za-z_0-9]*\\.py$"

structure Config where
  outputDir : String := ".expose"
  searchPaths : List String := ["."]
  /-- A regular expression that the names of scanned files match. -/
  filePattern : String := defaultFilePattern
  /-- Globs of which a scanned file matches one, unless there are none. -/
  included : List String := []
  /-- Globs of which a scanned file matches none. -/
  excluded : List String := []
  modules : List ModuleRule := []
  /-- Ignore files of all directories count, and not only the one at the search root. -/
  nestedIgnore : Bool := false
  deriving DecidableEq, Inhabited

namespace Config

open Schema Checked

def strings : Json → Checked (List String) := arrayOf .notList string

/-- The value of a check, if a further test has nothing against it. -/
def andThen (c : Checked α) (objection : α → Option Problem) : Checked α :=
  match c with
  | valid a => match objection a with
    | none => valid a
    | some p => fail p
  | invalid is => invalid is

def moduleRule : Json → Checked ModuleRule
  | .object ms =>
    (fun name globs _ => (⟨name, globs⟩ : ModuleRule))
      <$> required "name" string ms <*> required "globs" strings ms
      <*> noOthers [["name"], ["globs"]] ms
  | _ => fail .notModel

/-- The pattern is a regular expression. -/
def patternProblem (pattern : String) : Option Problem :=
  match Pattern.parse? {} pattern with
  | some _ => none
  | none => some (.refused none)

/-- A search path is below the root as a text: not empty, not absolute, no home directory. -/
def isRelative (entry : String) : Bool :=
  entry ≠ "" && !(Path.ofString entry).isAbsolute && entry.toList.head? ≠ some '~'

def searchPathsProblem (entries : List String) : Option Problem :=
  if entries.isEmpty then some (.refused (some "search_paths must list at least one directory"))
  else (entries.find? (!isRelative ·)).map fun entry =>
    .refused (some ("search path " ++ Text.quotedString entry
      ++ " must be a relative path within the root"))

/-- The keys of a document of settings. -/
def keys : List String :=
  ["output_dir", "search_paths", "file_pattern", "include", "exclude", "modules",
    "nested_gitignore"]

/-- The settings in the members of a document. -/
def ofMembers (ms : List (String × Json)) : Except Report Config :=
  let setting {α : Type} (key : String) (check : Json → Checked α) (default : α) : Checked α :=
    optional [key] check default ms
  let c : Checked Config :=
    (fun out paths pattern inc exc rules nested _ => ⟨out, paths, pattern, inc, exc, rules, nested⟩)
      <$> setting "output_dir" string ".expose"
      <*> setting "search_paths" (fun v => andThen (strings v) searchPathsProblem) ["."]
      <*> setting "file_pattern" (fun v => andThen (string v) patternProblem) defaultFilePattern
      <*> setting "include" strings []
      <*> setting "exclude" strings []
      <*> setting "modules" (arrayOf .notList moduleRule) []
      <*> setting "nested_gitignore" flag false
      <*> noOthers (keys.map fun k => [k]) ms
  c.toExcept "ExposeConfig"

end Config
end Exposure
