import Exposure.Artifact.Change
import Exposure.Generation

/-!
Verifying that generating an artifact again reproduces the one that is kept. The artifact is
generated into an empty directory, which is then compared with the directory of the kept artifact,
each as a map from relative paths to bytes. Where the artifact itself differs, the symbols with
different records are listed too.
-/
namespace Exposure

/-- The files of a directory by their paths below it, links to files among them; linked directories
are not entered. -/
def FileSystem.snapshot (fs : FileSystem) (directory : Path) : Table ByteArray :=
  match fs.directoryPosition? directory with
  | none => .empty
  | some position =>
    let below := ((fs.root.at? position).map (Entry.descendants [])).getD []
    Table.ofList (below.filterMap fun d =>
      (fs.bytes? (Path.absolute (position ++ d.1))).map fun bytes => ("/".intercalate d.1, bytes))

/-- How the files of two directories differ. -/
structure Comparison where
  /-- In both with different bytes. -/
  mismatches : List String := []
  /-- Only in the kept one. -/
  missing : List String := []
  /-- Only in the one made anew. -/
  extra : List String := []
  changedSymbols : List String := []
  deriving DecidableEq

namespace Comparison

/-- The symbols whose records differ between two artifacts; one that cannot be read has none. -/
def symbolsBetween (kept made : ByteArray) : List String :=
  let read (bytes : ByteArray) : Except Artifact.LoadError Index :=
    Artifact.ofBytes (Path.ofString Artifact.fileName) bytes
  match Artifact.changedSymbols (read kept) (read made) with
  | .ok names => names
  | .error _ => []

/-- Compares the files of two directories. -/
def between (kept made : Table ByteArray) : Comparison where
  mismatches := Artifact.sortNames (kept.keys.filter fun p =>
    match kept.get? p, made.get? p with
    | some a, some b => a.data ≠ b.data
    | _, _ => false)
  missing := Artifact.sortNames (kept.keys.filter fun p => !made.contains p)
  extra := Artifact.sortNames (made.keys.filter fun p => !kept.contains p)
  changedSymbols :=
    match kept.get? Artifact.fileName, made.get? Artifact.fileName with
    | some a, some b => if a.data = b.data then [] else symbolsBetween a b
    | _, _ => []

/-- The directories hold the same files. -/
def ok (c : Comparison) : Bool :=
  c.mismatches.isEmpty && c.missing.isEmpty && c.extra.isEmpty

end Comparison

namespace Verification

/-- What keeps an artifact from being verified. -/
inductive Fault where
  | directoryMissing (directory : Path)
  | notDirectory (directory : Path)
  | generation (fault : Generation.Fault)

/-- The message about the directory with the kept artifact. -/
def Fault.message? : Fault → Option String
  | directoryMissing p => some ("Artifacts directory does not exist: " ++ p.toString)
  | notDirectory p => some ("Artifacts path is not a directory: " ++ p.toString)
  | generation _ => none

/-- Generates the artifact of a repository into a new directory and compares that with the directory
of the kept one. The new directory does not stay. -/
def run (fs : FileSystem) (root directory scratch : Path) :
    Except Fault Comparison × List LogLine :=
  if !fs.pathExists directory then (.error (.directoryMissing directory), [])
  else if !fs.isDirectory directory then (.error (.notDirectory directory), [])
  else
    let made := Generation.run (fs.makeDirectories scratch).1 { root, outDir := some scratch } none
    match made.result with
    | .error fault => (.error (.generation fault), made.logs)
    | .ok _ =>
      (.ok (.between (fs.snapshot directory) (made.fileSystem.snapshot scratch)), made.logs)

end Verification
end Exposure
