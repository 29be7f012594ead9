import Exposure.Artifact.Write
import Exposure.Config.Load
import Exposure.Config.Location
import Exposure.Discovery.Run
import Exposure.OutputDirectory

/-!
Generating the artifact of a repository. The settings give a source tree, which leaves out the
output directory; what is discovered there is written to the output directory as one file. Settings
and output directory can be given; otherwise the repository has its own.
-/
namespace Exposure

namespace Config

/-- The source tree that settings describe. Of the names that the output directory has below the
search roots the first one counts, and for all roots. -/
def sourceTree (c : Config) (roots : List Path) (outputNames : List String) : SourceTree where
  roots
  filters := ⟨outputNames.headD "", c.included, c.excluded⟩
  nestedIgnore := c.nestedIgnore
  modules := c.modules

end Config

namespace Discovery

/-- What keeps a repository from being discovered. -/
inductive Fault where
  | config (e : Config.LoadError)
  | location (e : Config.LocationError)
  | scan (fault : Scan.Fault)

/-- The message of a fault in the settings, as far as it has one. -/
def Fault.message? : Fault → Option String
  | config e => e.message?
  | location e => e.message?
  | scan _ => none

/-- A repository to be discovered, with what is given in place of its own settings and output
directory. -/
structure Request where
  root : Path
  outDir : Option Path := none
  config : Option Config := none

namespace Request

/-- The settings and the output directory of a request. -/
def settle (fs : FileSystem) (r : Request) : Except Fault (Config × Path) := do
  let config ← match r.config with
    | some c => pure c
    | none => (Config.load fs r.root).mapError .config
  let outDir ← match r.outDir with
    | some p => pure p
    | none => (Config.resolveOutputDir fs r.root config.outputDir).mapError .location
  return (config, outDir)

end Request

/-- Discovers a repository by its settings. -/
def ofConfig (fs : FileSystem) (root : Path) (config : Config) (outDir : Path) :
    Except Fault (Discovery × List LogLine) := do
  let roots ← (Config.resolveSearchPaths fs root config.searchPaths).mapError .location
  let tree := config.sourceTree roots (OutputDirectory.namesBelow outDir roots)
  (run fs tree config.filePattern).mapError .scan

/-- Discovers a repository. -/
def ofRequest (fs : FileSystem) (r : Request) : Except Fault (Discovery × List LogLine) := do
  let (config, outDir) ← r.settle fs
  ofConfig fs r.root config outDir

end Discovery

/-- What has been generated: the discovery and the file that it was written to. -/
structure Generation where
  discovery : Discovery
  artifact : Path

namespace Generation

/-- What keeps an artifact from being generated. -/
inductive Fault where
  | discovery (fault : Discovery.Fault)
  | write (e : FileSystem.WriteError)

/-- The outcome of generating: the file system that it leaves, also where it fails. -/
structure Outcome where
  fileSystem : FileSystem
  logs : List LogLine := []
  result : Except Fault Generation

/-- The lines after an artifact has been generated. -/
def writtenLines (artifact : Path) : List LogLine :=
  [Artifact.writtenLine artifact,
    ⟨.info, "Exposed symbols written to " ++ artifact.toString⟩]

/-- Discovers a repository and writes the artifact into the output directory. -/
def run (fs : FileSystem) (r : Discovery.Request)
    (interruption : Option FileSystem.Interruption) : Outcome :=
  let found : Except Discovery.Fault ((Discovery × List LogLine) × Path) := do
    let (config, outDir) ← r.settle fs
    return (← Discovery.ofConfig fs r.root config outDir, outDir)
  match found with
  | .error fault => { fileSystem := fs, result := .error (.discovery fault) }
  | .ok ((d, lines), outDir) =>
    let artifact := outDir.child Artifact.fileName
    let w := Artifact.write fs artifact d.index interruption
    match w.error with
    | some e => { fileSystem := w.final, logs := lines, result := .error (.write e) }
    | none =>
      { fileSystem := w.final, logs := lines ++ writtenLines artifact, result := .ok ⟨d, artifact⟩ }

end Generation
end Exposure
