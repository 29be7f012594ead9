import Exposure.Glob
import Exposure.Ignore.File

/-!
The source files below one search root: regular files, reached without entering a linked
directory, that pass the name pattern, the output directory rule, the ignore files and the globs.
They come in the order of their paths below the root.
-/
namespace Exposure

/-- A file below a search root. -/
structure SourceFile where
  searchRoot : Path
  /-- The components of its path below the search root. -/
  parts : List String
  deriving DecidableEq, Inhabited

namespace SourceFile

/-- The path below the search root. -/
def relativePath (f : SourceFile) : String := "/".intercalate f.parts

def path (f : SourceFile) : Path := ⟨f.searchRoot.root, f.searchRoot.parts ++ f.parts⟩

def name (f : SourceFile) : String := f.parts.getLast?.getD ""

end SourceFile

namespace Scan

/-- What a scan lets through, apart from the ignore files. -/
structure Filters where
  /-- Files below this first component are left out, unless it is empty. -/
  outputDir : String := ".expose"
  /-- Globs of which a file matches one, unless there are none. -/
  included : List String := []
  /-- Globs of which a file matches none. -/
  excluded : List String := []

/-- How a scan reads what it is given as text. -/
structure Readers where
  /-- The test of names that a pattern for file names stands for, if it is a pattern. -/
  pattern : String → Option (String → Bool)
  ignore : Ignore.Reader

/-- Patterns are regular expressions, for which case does not count, and ignore files have rules. -/
def Readers.standard : Readers where
  pattern := fun p => (Pattern.parse? { ignoreCase := true } p).map (·.occursIn)
  ignore := Ignore.readRules

/-- Why a scan fails as a whole. -/
inductive Fault where
  /-- The pattern for file names is no regular expression. -/
  | badPattern
  | ignore (fault : Ignore.Fault)
  deriving DecidableEq

/-- The regular files below a directory, links neither listed nor entered. -/
def regularFiles (fs : FileSystem) (root : Path) : List (List String) :=
  match fs.directoryPosition? root with
  | none => []
  | some position =>
    match fs.root.at? position with
    | some e => (e.descendants []).filterMap fun d => if d.2.isFile then some d.1 else none
    | none => []

/-- A file outside the output directory. -/
def Filters.outsideOutput (f : Filters) (parts : List String) : Bool :=
  f.outputDir = "" || parts.head? ≠ some f.outputDir

def Filters.passesGlobs (f : Filters) (relativePath : String) : Bool :=
  (f.included.isEmpty || f.included.any fun g => Glob.isMatch g relativePath)
    && !f.excluded.any fun g => Glob.isMatch g relativePath

/-- One file passes everything; the ignore files are asked only if the name and the place do. -/
def accepts (isName : String → Bool) (f : Filters) (ignores : Path → Except Ignore.Fault Bool)
    (file : SourceFile) : Except Ignore.Fault Bool := do
  if isName file.name && f.outsideOutput file.parts then
    if ← ignores file.path then return false
    return f.passesGlobs file.relativePath
  else return false

/-- In the order of the paths below the search root. -/
def inOrder (files : List SourceFile) : List SourceFile :=
  files.mergeSort fun a b => !(b.relativePath < a.relativePath)

/-- The test of the ignore file in a directory, if there is one. -/
def ignoreFile? (read : Ignore.Reader) (fs : FileSystem) (directory : Path) :
    Except Ignore.Fault (Option (Path → Except Ignore.Fault Bool)) :=
  match fs.bytes? (directory.child Ignore.fileName) with
  | some bytes => (read directory bytes).map some
  | none => .ok none

/-- The directories below a search root that hold a regular ignore file, in the order of the
paths of these files. -/
def ignoreDirectories (fs : FileSystem) (root : Path) : List Path :=
  let files := ((regularFiles fs root).filter fun p => p.getLast? = some Ignore.fileName).map
    fun p => (⟨root, p⟩ : SourceFile)
  (inOrder files).map fun f => f.path.parent

/-- The test whether a path is ignored, from the one ignore file of the search root or from those
of all directories. -/
def ignoreTest (read : Ignore.Reader) (fs : FileSystem) (nested : Bool) (root : Path) :
    Except Ignore.Fault (Path → Except Ignore.Fault Bool) :=
  if nested then
    ((ignoreDirectories fs root).mapM (ignoreFile? read fs)).map fun tests path =>
      Ignore.anyIgnores path (tests.filterMap id)
  else (ignoreFile? read fs root).map fun test => test.getD fun _ => .ok false

/-- The accepted ones among some files, in order. -/
def select (isName : String → Bool) (f : Filters) (ignores : Path → Except Ignore.Fault Bool)
    (files : List SourceFile) : Except Ignore.Fault (List SourceFile) :=
  (files.filterM (accepts isName f ignores)).map inOrder

/-- The source files below a search root, for any way to read the pattern and the ignore files. -/
def filesBelowBy (readers : Readers) (fs : FileSystem) (pattern : String) (f : Filters)
    (nested : Bool) (root : Path) : Except Fault (List SourceFile) :=
  match readers.pattern pattern with
  | none => .error .badPattern
  | some isName => do
    let ignores ← (ignoreTest readers.ignore fs nested root).mapError .ignore
    (select isName f ignores ((regularFiles fs root).map fun p => ⟨root, p⟩)).mapError .ignore

/-- The source files below a search root. -/
def filesBelow (fs : FileSystem) (pattern : String) (f : Filters) (nested : Bool) (root : Path) :
    Except Fault (List SourceFile) :=
  filesBelowBy .standard fs pattern f nested root

end Scan
end Exposure
