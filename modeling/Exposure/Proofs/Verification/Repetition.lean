import Exposure.Proofs.Json.Reading
import Exposure.Proofs.Verification.Generated

/-!
Generating an artifact and verifying it on the otherwise unchanged tree. What the generation adds
is not read as settings, and if it is scanned, its text mentions no class; so verification passes if
the scan has left out no source for the sake of the output directory. As the output directory
decides what a scan leaves out, it may not pass otherwise.
-/
namespace Exposure

open FileSystem

/-- What a generation leaves: the artifact at a place that was free, and directories on the way to
it. -/
structure Generation.Leaves (fs written : FileSystem) (outDir : Path) (position : List String)
    (bytes : ByteArray) : Prop where
  grown : Extends [position ++ [Artifact.fileName]] fs written
  wellFormed : written.root.WellFormed
  free : fs.root.at? (position ++ [Artifact.fileName]) = none
  artifact : written.root.at? (position ++ [Artifact.fileName]) = some (.file bytes)
  directory : written.directoryPosition? outDir = some position

namespace Generation.Leaves

variable {fs written made : FileSystem} {outDir root : Path} {position : List String}
  {bytes : ByteArray} {i : Index} {f : SourceFile}

/-- It is there still when more directories have been made. -/
theorem makeDirectories (h : Leaves fs written outDir position bytes) {scratch : Path}
    (hnames : ∀ n ∈ scratch.parts, IsEntryName n)
    (hmade : written.makeDirectories scratch = (made, none)) :
    Leaves fs made outDir position bytes := by
  have hextends := @makeDirectories_extends written scratch
  have hwell := makeDirectories_wellFormed hnames h.wellFormed
  rw [hmade] at hextends hwell
  have hgrown := h.grown.trans hextends
  rw [List.append_nil] at hgrown
  exact ⟨hgrown, hwell, h.free, hextends.toKeeps.file h.artifact,
    hextends.toKeeps.directoryPosition? h.directory⟩

/-- Nothing that is added has the name of a file of settings or ignore rules. -/
theorem getLast_ne (_ : Leaves fs made outDir position bytes) {name : String}
    (hname : name ≠ Artifact.fileName) :
    ∀ place ∈ [position ++ [Artifact.fileName]], place.getLast? ≠ some name := by
  intro place hplace hlast
  rw [List.mem_singleton.1 hplace, List.getLast?_concat] at hlast
  exact hname (Option.some.inj hlast).symm

theorem load (h : Leaves fs made outDir position bytes) (hwell : fs.root.WellFormed)
    (hunbroken : fs.Unbroken) (hroot : fs.isDirectory root = true) :
    Config.load made root = Config.load fs root :=
  Config.load_extends h.grown hwell hunbroken hroot (h.getLast_ne (by decide))

end Generation.Leaves

namespace Verification

/-- A repository with a source file and an output directory, and a directory elsewhere. -/
def sourcesTree (listing : List (String × Entry)) : FileSystem :=
  ⟨.directory [
    ("repo", .directory [
      ("app", .directory [("log.py", .file .empty)]), (".expose", .directory listing)]),
    ("tmp", .directory [])], []⟩

def sourcesRoot : Path := Path.absolute ["repo"]

def sourcesOut : Path := Path.absolute ["repo", ".expose"]

theorem position_sourcesTree :
    (sourcesTree []).directoryPosition? sourcesRoot = some ["repo"] :=
  directoryPosition?_absolute (by decide) rfl

theorem directory_sourcesTree : (sourcesTree []).isDirectory sourcesRoot = true := by
  rw [isDirectory_eq, position_sourcesTree]
  rfl

theorem realPath_sourcesTree : (sourcesTree []).realPath sourcesRoot = .ok sourcesRoot ∧
    (sourcesTree []).realPath sourcesOut = .ok sourcesOut := by
  simp [realPath, realFrom, sourcesTree, sourcesRoot, sourcesOut, Path.absolute, Path.hasNul, start,
    Path.isAbsolute, Entry.at?, Entry.children, Assoc.get?]

theorem roots_sourcesTree :
    Config.resolveSearchPaths (sourcesTree []) sourcesRoot ["."] = .ok [sourcesRoot] := by
  have hroot := realPath_sourcesTree.1
  have hentry : Path.ofString "." = ⟨"", []⟩ := by decide +kernel
  have hjoin : sourcesRoot.join ⟨"", []⟩ = sourcesRoot := by decide
  have hwithin : sourcesRoot.relativeTo? sourcesRoot = some ⟨"", []⟩ := by decide
  simp [Config.resolveSearchPaths, Config.resolveWithin, hentry, hjoin, hroot, hwithin,
    Except.mapError, bind, Except.bind, pure, Except.pure, Path.isAbsolute]

theorem pattern_sourcesTree : ∃ regex,
    Pattern.parse? { ignoreCase := true } defaultFilePattern = some regex ∧
      regex.occursIn "log.py" = true ∧ regex.occursIn Artifact.fileName = false := by
  have hpattern : ((Pattern.parse? { ignoreCase := true } defaultFilePattern).any fun r =>
      r.occursIn "log.py" && !r.occursIn Artifact.fileName) = true := by decide +kernel
  obtain ⟨regex, hregex, hnames⟩ := (Option.any_eq_true _ _).1 hpattern
  rw [Bool.and_eq_true, Bool.not_eq_true'] at hnames
  exact ⟨regex, hregex, hnames⟩

end Verification

end Exposure
