import Exposure.Artifact.Validation
import Exposure.CommandLine.Invocation
import Exposure.Symbol.Cache
import Exposure.Value
import Exposure.Verification

/-!
Carrying out a command line: what is written to the output and to the error output, the exit code,
the lines of the log and the file system that is left. A fault that the program knows is told on the
error output; any other ends it.
-/
namespace Exposure.CommandLine

/-- What a command line depends on besides the file system. -/
structure Surroundings where
  /-- The home directory of a user, of the current one for an empty name. -/
  homeOf : String → Option String
  /-- A directory that is free for files that do not stay. -/
  scratch : Path

structure Response where
  exitCode : UInt32 := 0
  output : String := ""
  errors : String := ""
  logs : List LogLine := []
  fileSystem : FileSystem

/-- What ends the program. -/
inductive Fault where
  /-- A user that a path names has no home directory. -/
  | noHome
  | unresolved (reason : FileSystem.ResolveError)
  | discovery (fault : Discovery.Fault)
  | write (e : FileSystem.WriteError)
  | validation (e : Artifact.UnusableEntry)
  | search (fault : PurposeTree.Fault)

/-- What keeps a command from being carried out. -/
inductive Obstacle where
  /-- It is told on the error output. -/
  | told (message : String)
  | fault (f : Fault)

namespace Obstacle

/-- An obstacle with the message that it has in the program's own words. -/
def ofMessage (message? : Option String) (f : Fault) : Obstacle :=
  match message? with
  | some m => told m
  | none => fault f

def ofDiscovery (f : Discovery.Fault) : Obstacle := ofMessage f.message? (.discovery f)

def ofGeneration : Generation.Fault → Obstacle
  | .discovery f => ofDiscovery f
  | .write e => fault (.write e)

end Obstacle

/-- A path with the home directory in place of its name. -/
def expandHome (s : Surroundings) (p : Path) : Except Fault Path :=
  match p.isAbsolute, p.parts with
  | false, first :: rest =>
    match first.toList with
    | '~' :: user =>
      match s.homeOf (String.ofList user) with
      | some home => .ok ((Path.ofString home).join ⟨"", rest⟩)
      | none => .error .noHome
    | _ => .ok p
  | _, _ => .ok p

/-- The real path that a text of the command line stands for. -/
def resolve (s : Surroundings) (fs : FileSystem) (text : String) : Except Fault Path := do
  (fs.realPath (← expandHome s (Path.ofString text))).mapError .unresolved

/-- The directory of the artifact: the given one or that of the settings. -/
def artifactsDirectory (s : Surroundings) (fs : FileSystem) (root : Path)
    (given : Option String) : Except Obstacle Path :=
  match given with
  | some text => (resolve s fs text).mapError .fault
  | none => (Discovery.Request.settle fs { root }).mapError .ofDiscovery |>.map (·.2)

/-- A line for each symbol that was found. -/
def hitLines (hits : List PurposeTree.Hit) : String :=
  String.join (hits.map fun h => h.1 ++ "\t" ++ (Value.ofJson h.2).toText ++ "\n")

def Response.ofGenerate (s : Surroundings) (fs : FileSystem) (root : Path)
    (outDir : Option String) : Except Obstacle Response := do
  let outDir ← (outDir.mapM (resolve s fs)).mapError .fault
  let g := Generation.run fs { root, outDir } none
  match g.result with
  | .ok _ => return { logs := g.logs, fileSystem := g.fileSystem }
  | .error fault => throw (.ofGeneration fault)

def Response.ofQuery (fs : FileSystem) (directory : Path) (pattern : String)
    (methods ancestors : Bool) : Except Obstacle Response := do
  let index ← (Artifact.load fs (.path directory.toString)).mapError fun e => .told e.message
  let cache := SymbolCache.ofIndex index
  let tree := if methods then cache.methodPurposes else cache.classPurposes
  let hits ← (tree.search pattern ancestors).mapError fun fault => .fault (.search fault)
  return { output := hitLines hits, fileSystem := fs }

def Response.ofValidate (fs : FileSystem) (directory : Path) : Except Obstacle Response := do
  let r ← (Artifact.validate fs directory).mapError fun e => .fault (.validation e)
  let warnings := r.warnings.map fun m => m.location ++ ": warning: " ++ m.finding.message ++ "\n"
  let errors := r.errors.map fun m => m.location ++ ": " ++ m.finding.message ++ "\n"
  return { exitCode := if r.ok then 0 else 1, errors := String.join (warnings ++ errors)
           fileSystem := fs }

/-- The lines about directories that differ. -/
def comparisonLines (c : Comparison) : String :=
  let lines (label : String) (paths : List String) : List String :=
    paths.map fun p => label ++ ": " ++ p ++ "\n"
  String.join (lines "missing" c.missing ++ lines "extra" c.extra
    ++ lines "mismatches" c.mismatches ++ lines "changed" c.changedSymbols)

def Response.ofVerify (s : Surroundings) (fs : FileSystem) (root directory : Path) :
    Except Obstacle Response :=
  let (result, logs) := Verification.run fs root directory s.scratch
  match result with
  | .ok c =>
    .ok { exitCode := if c.ok then 0 else 1, errors := if c.ok then "" else comparisonLines c
          logs, fileSystem := fs }
  | .error (.generation fault) => .error (.ofGeneration fault)
  | .error fault =>
    .ok { exitCode := 2, logs, fileSystem := fs
          errors := "artifacts-dir: " ++ directory.toString ++ "\nerror: "
            ++ fault.message?.getD "" ++ "\n" }

/-- Carries out a command in a repository. -/
def Command.run (s : Surroundings) (fs : FileSystem) (root : Path) :
    Command → Except Obstacle Response
  | .generate outDir => Response.ofGenerate s fs root outDir
  | .query pattern given methods ancestors => do
    Response.ofQuery fs (← artifactsDirectory s fs root given) pattern methods ancestors
  | .validate given => do Response.ofValidate fs (← artifactsDirectory s fs root given)
  | .verify given => do Response.ofVerify s fs root (← artifactsDirectory s fs root given)

/-- Carries out a command line. -/
def Invocation.run (s : Surroundings) (fs : FileSystem) (i : Invocation) :
    Except Fault Response := do
  let root ← resolve s fs i.root
  match i.command.run s fs root with
  | .ok r => return { r with logs := LogLine.atLeast i.level r.logs }
  | .error (.told message) =>
    return { exitCode := 2, errors := "error: " ++ message ++ "\n", fileSystem := fs }
  | .error (.fault f) => throw f

end Exposure.CommandLine
