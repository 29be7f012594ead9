import Exposure.FileSystem.Resolve

/-!
Directories that the settings name. Each is a relative path, and with all links replaced it lies
within the root of the repository; anything else is refused.
-/
namespace Exposure.Config

/-- Why a directory is refused; the label says which setting names it. -/
inductive LocationError where
  | empty (label : String)
  | notRelative (label : String)
  | escapes (label : String) (entry : String)
  /-- The directory or the root has no real path. -/
  | unresolved (reason : FileSystem.ResolveError)
  deriving DecidableEq

def LocationError.message? : LocationError → Option String
  | empty label => some (label ++ " must be a non-empty relative path")
  | notRelative label => some (label ++ " must be a relative path within the repo root")
  | escapes label entry => some (label ++ " '" ++ entry ++ "' escapes the repository root")
  | unresolved _ => none

/-- The real path of a directory within the root. -/
def resolveWithin (fs : FileSystem) (root : Path) (entry label : String) :
    Except LocationError Path := do
  if entry = "" then throw (.empty label)
  if entry.toList.head? = some '~' || (Path.ofString entry).isAbsolute then
    throw (.notRelative label)
  let realRoot ← (fs.realPath root).mapError .unresolved
  let real ← (fs.realPath (realRoot.join (Path.ofString entry))).mapError .unresolved
  match real.relativeTo? realRoot with
  | some _ => return real
  | none => throw (.escapes label entry)

def resolveOutputDir (fs : FileSystem) (root : Path) (entry : String) :
    Except LocationError Path :=
  resolveWithin fs root entry "output_dir"

def resolveSearchPaths (fs : FileSystem) (root : Path) (entries : List String) :
    Except LocationError (List Path) :=
  entries.mapM fun entry => resolveWithin fs root entry "search path"

end Exposure.Config
