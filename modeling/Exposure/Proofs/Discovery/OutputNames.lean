import Exposure.Proofs.Verification.Repetition
import Mathlib.Data.List.Perm.Basic

/-!
The names that the output directory has below the search roots are a set, of which a discovery takes
one for all roots. Which one does not matter just if there are no two; so it cannot matter unless a
search root lies inside another.
-/
namespace Exposure

namespace OutputDirectory

variable {outDir : Path} {roots : List Path}

theorem mem_namesBelow {name : String} :
    name ∈ namesBelow outDir roots ↔ (∃ r ∈ roots, nameBelow outDir r = name) ∧ name ≠ "" := by
  simp [namesBelow]

/-- The output directory has one name at most below the roots that it lies in. -/
def OneName (outDir : Path) (roots : List Path) : Prop :=
  ∀ r ∈ roots, ∀ s ∈ roots, nameBelow outDir r ≠ "" → nameBelow outDir s ≠ "" →
    nameBelow outDir r = nameBelow outDir s

theorem oneName_iff :
    OneName outDir roots ↔
      ∀ n ∈ namesBelow outDir roots, ∀ m ∈ namesBelow outDir roots, n = m := by
  simp only [OneName, mem_namesBelow]
  constructor
  · rintro h _ ⟨⟨r, hr, rfl⟩, hne⟩ _ ⟨⟨s, hs, rfl⟩, hne'⟩
    exact h r hr s hs hne hne'
  · intro h r hr s hs hne hne'
    exact h _ ⟨⟨r, hr, rfl⟩, hne⟩ _ ⟨⟨s, hs, rfl⟩, hne'⟩

theorem prefix_of_nameBelow {r : Path} (h : nameBelow outDir r ≠ "") :
    r.root = outDir.root ∧ r.parts <+: outDir.parts := by
  rw [nameBelow, Path.relativeTo?] at h
  split at h
  · rename_i p hp
    split at hp
    · rename_i hwithin
      exact ⟨hwithin.1.symm, List.isPrefixOf_iff_prefix.1 hwithin.2⟩
    · cases hp
  · exact absurd rfl h

/-- No root lies inside another one. -/
def Apart (roots : List Path) : Prop :=
  ∀ r ∈ roots, ∀ s ∈ roots, (s.relativeTo? r).isSome = true → s = r

theorem oneName_of_apart (h : Apart roots) : OneName outDir roots := by
  intro r hr s hs hne hne'
  obtain ⟨hroot, hprefix⟩ := prefix_of_nameBelow hne
  obtain ⟨hroot', hprefix'⟩ := prefix_of_nameBelow hne'
  -- Both roots are on the way to the output directory, and so one of them is inside the other.
  have hinside {p q : Path} (hpq : p.root = q.root) (hle : p.parts <+: q.parts) :
      (q.relativeTo? p).isSome = true := by
    rw [Path.relativeTo?, if_pos ⟨hpq.symm, List.isPrefixOf_iff_prefix.2 hle⟩]
    rfl
  rcases List.prefix_or_prefix_of_prefix hprefix hprefix' with hle | hle
  · rw [h r hr s hs (hinside (hroot.trans hroot'.symm) hle)]
  · rw [h s hs r hr (hinside (hroot'.trans hroot.symm) hle)]

theorem headD_eq_of_perm {names names' : List String} (h : names.Perm names')
    (hone : ∀ n ∈ names', ∀ m ∈ names', n = m) : names.headD "" = names'.headD "" := by
  cases names with
  | nil => rw [List.nil_perm.1 h]
  | cons n names =>
      cases names' with
      | nil => cases List.perm_nil.1 h
      | cons m names' => exact hone n (h.subset List.mem_cons_self) m List.mem_cons_self

/-- Every member of a list comes first in some order. -/
theorem exists_perm_headD {names : List String} {n : String} (h : n ∈ names) :
    ∃ order, List.Perm order names ∧ order.headD "" = n :=
  ⟨n :: names.erase n, (List.perm_cons_erase h).symm, rfl⟩

end OutputDirectory

open OutputDirectory

/-- The source tree is the same for every order of the names just if there are no two of them. -/
theorem Config.sourceTree_orderless_iff (config : Config) (roots : List Path) (outDir : Path) :
    (∀ names, List.Perm names (namesBelow outDir roots) →
      config.sourceTree roots names = config.scanTree roots outDir) ↔ OneName outDir roots := by
  rw [oneName_iff]
  constructor
  · intro h n hn m hm
    obtain ⟨order, horder, rfl⟩ := exists_perm_headD hn
    obtain ⟨order', horder', rfl⟩ := exists_perm_headD hm
    have hsame : config.sourceTree roots order = config.sourceTree roots order' :=
      (h order horder).trans (h order' horder').symm
    exact congrArg (fun t => t.filters.outputDir) hsame
  · intro hone names hperm
    simp only [sourceTree, scanTree, headD_eq_of_perm hperm hone]

namespace Discovery

/-- Whether the order of the names of the output directory can show in a discovery. It does not in
the source tree just if there are no two names. Then neither the scanned files nor the result depend
on it; and this is so whenever no search root lies inside another. -/
theorem orderless {fs : FileSystem} {root : Path} {config : Config} {roots : List Path}
    (hroots : Config.resolveSearchPaths fs root config.searchPaths = .ok roots) (outDir : Path) :
    ((∀ names, List.Perm names (namesBelow outDir roots) →
      config.sourceTree roots names = config.scanTree roots outDir) ↔ OneName outDir roots) ∧
    (OneName outDir roots → ∀ names, List.Perm names (namesBelow outDir roots) →
      (config.sourceTree roots names).files fs config.filePattern =
        (config.scanTree roots outDir).files fs config.filePattern ∧
      (run fs (config.sourceTree roots names) config.filePattern).mapError .scan =
        ofConfig fs root config outDir) ∧
    (Apart roots → OneName outDir roots) := by
  have htree := config.sourceTree_orderless_iff roots outDir
  refine ⟨htree, fun hone names hperm => ?_, oneName_of_apart⟩
  rw [htree.2 hone names hperm, ofConfig, hroots]
  exact ⟨rfl, rfl⟩

open Verification

theorem orderless_sources :
    OneName sourcesOut [sourcesRoot] ∧ namesBelow sourcesOut [sourcesRoot] = [".expose"] ∧
    ∀ names, List.Perm names [".expose"] →
      (run (sourcesTree []) (Config.sourceTree {} [sourcesRoot] names)
        defaultFilePattern).mapError .scan =
          ofConfig (sourcesTree []) sourcesRoot {} sourcesOut := by
  have hnames : namesBelow sourcesOut [sourcesRoot] = [".expose"] := by decide
  have hapart : Apart [sourcesRoot] := by
    intro r hr s hs _
    rw [List.mem_singleton.1 hr, List.mem_singleton.1 hs]
  obtain ⟨-, hsame, hone⟩ := @orderless _ _ {} _ roots_sourcesTree sourcesOut
  refine ⟨hone hapart, hnames, fun names hperm => ?_⟩
  exact (hsame (hone hapart) names (hnames ▸ hperm)).2

theorem position_nested :
    (sourcesTree []).directoryPosition? (sourcesRoot.child "app") = some ["repo", "app"] :=
  FileSystem.directoryPosition?_absolute (by decide) rfl

theorem directory_nested : (sourcesTree []).isDirectory (sourcesRoot.child "app") = true := by
  rw [FileSystem.isDirectory_eq, position_nested]
  rfl

theorem roots_nested :
    Config.resolveSearchPaths (sourcesTree []) sourcesRoot [".", "app"] =
      .ok [sourcesRoot, sourcesRoot.child "app"] := by
  have hroot := realPath_sourcesTree.1
  have happ : (sourcesTree []).realPath (sourcesRoot.child "app") =
      .ok (sourcesRoot.child "app") := by
    simp [FileSystem.realPath, FileSystem.realFrom, sourcesTree, sourcesRoot, Path.child,
      Path.absolute, Path.hasNul, FileSystem.start, Path.isAbsolute, Entry.at?, Entry.children,
      Assoc.get?]
  have hentries : Path.ofString "." = ⟨"", []⟩ ∧ Path.ofString "app" = ⟨"", ["app"]⟩ := by
    decide
  have hjoin : sourcesRoot.join ⟨"", []⟩ = sourcesRoot ∧
      sourcesRoot.join ⟨"", ["app"]⟩ = sourcesRoot.child "app" := by decide
  have hwithin : sourcesRoot.relativeTo? sourcesRoot = some ⟨"", []⟩ ∧
      (sourcesRoot.child "app").relativeTo? sourcesRoot = some ⟨"", ["app"]⟩ := by decide
  simp [Config.resolveSearchPaths, Config.resolveWithin, hentries, hjoin, hroot, happ, hwithin,
    Except.mapError, bind, Except.bind, pure, Except.pure, Path.isAbsolute]

/-- Where one search root lies inside the other, the order decides which of them a file is found
under, and so what its class is called. -/
theorem files_nested :
    Config.resolveSearchPaths (sourcesTree []) sourcesRoot [".", "app"] =
        .ok [sourcesRoot, sourcesRoot.child "app"] ∧
    namesBelow ((sourcesRoot.child "app").child "out") [sourcesRoot, sourcesRoot.child "app"] =
        ["app", "out"] ∧
    List.Perm ["out", "app"] ["app", "out"] ∧
    (Config.sourceTree {} [sourcesRoot, sourcesRoot.child "app"] ["app", "out"]).files
        (sourcesTree []) defaultFilePattern = .ok [⟨sourcesRoot.child "app", ["log.py"]⟩] ∧
    (Config.sourceTree {} [sourcesRoot, sourcesRoot.child "app"] ["out", "app"]).files
        (sourcesTree []) defaultFilePattern = .ok [⟨sourcesRoot, ["app", "log.py"]⟩] := by
  have hfiles (name : String) :
      Scan.filesBelow (sourcesTree []) defaultFilePattern ⟨name, [], []⟩ false sourcesRoot =
        .ok (if Scan.Filters.outsideOutput ⟨name, [], []⟩ ["app", "log.py"] then
          [⟨sourcesRoot, ["app", "log.py"]⟩] else []) ∧
      Scan.filesBelow (sourcesTree []) defaultFilePattern ⟨name, [], []⟩ false
          (sourcesRoot.child "app") =
        .ok (if Scan.Filters.outsideOutput ⟨name, [], []⟩ ["log.py"] then
          [⟨sourcesRoot.child "app", ["log.py"]⟩] else []) := by
    obtain ⟨regex, hregex, hname, -⟩ := pattern_sourcesTree
    constructor
    · refine Scan.filesBelow_only hregex (by simpa [SourceFile.name] using hname) ?_ ?_ name
      · exact @FileSystem.bytes?_absolute_missing _ ["repo"] _ _ (by decide) rfl rfl
      · rw [Scan.regularFiles_eq position_sourcesTree rfl]
        rfl
    · refine Scan.filesBelow_only hregex (by simpa [SourceFile.name] using hname) ?_ ?_ name
      · exact @FileSystem.bytes?_absolute_missing _ ["repo", "app"] _ _ (by decide) rfl rfl
      · rw [Scan.regularFiles_eq position_nested rfl]
        rfl
  have happ : Scan.Filters.outsideOutput ⟨"app", [], []⟩ ["app", "log.py"] = false ∧
      Scan.Filters.outsideOutput ⟨"app", [], []⟩ ["log.py"] = true ∧
      Scan.Filters.outsideOutput ⟨"out", [], []⟩ ["app", "log.py"] = true ∧
      Scan.Filters.outsideOutput ⟨"out", [], []⟩ ["log.py"] = true := by decide
  refine ⟨roots_nested, by decide, List.Perm.swap _ _ _, ?_, ?_⟩
  · simp [SourceTree.files, SourceTree.filesUnder_eq, Config.sourceTree, directory_sourcesTree,
      directory_nested, hfiles, happ, bind, Except.bind, pure, Except.pure, Except.map,
      SourceTree.keepNew]
  · simp [SourceTree.files, SourceTree.filesUnder_eq, Config.sourceTree, directory_sourcesTree,
      directory_nested, hfiles, happ, bind, Except.bind, pure, Except.pure, Except.map,
      SourceTree.keepNew, SourceTree.realParts, position_sourcesTree, position_nested]

end Discovery

end Exposure
