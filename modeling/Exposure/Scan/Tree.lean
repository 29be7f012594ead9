import Exposure.ModuleRule
import Exposure.Scan.Files

/-!
Search roots scanned one after the other. A file that has been found under an earlier root, under
whatever path, is not found again.
-/
namespace Exposure

structure SourceTree where
  roots : List Path
  filters : Scan.Filters := {}
  nestedIgnore : Bool := false
  modules : List ModuleRule := []

namespace SourceTree

/-- Where a file lies with all links replaced. -/
def realParts (fs : FileSystem) (f : SourceFile) : Option (List String) :=
  (fs.directoryPosition? f.searchRoot).map (· ++ f.parts)

/-- The files whose real place is new; `seen` grows by them. -/
def keepNew (fs : FileSystem) (seen : List (Option (List String))) :
    List SourceFile → List SourceFile
  | [] => []
  | f :: files =>
    let place := realParts fs f
    if seen.contains place then keepNew fs seen files
    else f :: keepNew fs (place :: seen) files

/-- The files below the given roots that are directories, for any way to read the pattern and the
ignore files. -/
def filesUnderBy (t : SourceTree) (readers : Scan.Readers) (fs : FileSystem) (pattern : String)
    (roots : List Path) : Except Scan.Fault (List SourceFile) := do
  let found ← (roots.filter fs.isDirectory).mapM
    (Scan.filesBelowBy readers fs pattern t.filters t.nestedIgnore)
  return keepNew fs [] found.flatten

/-- The files below the given roots that are directories. -/
def filesUnder (t : SourceTree) (fs : FileSystem) (pattern : String) (roots : List Path) :
    Except Scan.Fault (List SourceFile) :=
  t.filesUnderBy .standard fs pattern roots

/-- The files below the roots of the tree. -/
def files (t : SourceTree) (fs : FileSystem) (pattern : String) :
    Except Scan.Fault (List SourceFile) :=
  t.filesUnder fs pattern t.roots

/-- The name of the first group that the file belongs to. -/
def moduleOf (t : SourceTree) (f : SourceFile) : Option String :=
  classifyModule t.modules f.relativePath

end SourceTree
end Exposure
