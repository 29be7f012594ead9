import Exposure.FileSystem.Path

/-!
The output directory as the scan of a search root knows it: by the first component below the root.
-/
namespace Exposure.OutputDirectory

/-- The first component of the output directory below a root; empty if it is the root itself or
lies elsewhere. -/
def nameBelow (outDir root : Path) : String :=
  match outDir.relativeTo? root with
  | some p => p.parts.headD ""
  | none => ""

/-- The names of an output directory below those search roots that it lies in, without
repetition. -/
def namesBelow (outDir : Path) (roots : List Path) : List String :=
  ((roots.map (nameBelow outDir)).filter (· ≠ "")).eraseDups

end Exposure.OutputDirectory
