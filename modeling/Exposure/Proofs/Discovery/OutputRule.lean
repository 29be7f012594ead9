import Exposure.Proofs.Discovery.OutputNames
import Exposure.Proofs.Scan.Below

/-!
What the output directory rule hides. A scan knows the output directory by the first component that
it has below a search root, and by none where it lies below no root. A directory directly in a root
is hidden as it is; of one further down the rule takes in what is around it as well.
-/
namespace Exposure

namespace Path

variable {p d : Path}

/-- The path is the other one or goes on from it. -/
def Inside (p d : Path) : Prop := p.root = d.root ∧ d.parts <+: p.parts

/-- The path goes on from the other one. -/
def Below (p d : Path) : Prop := p.Inside d ∧ p ≠ d

instance : Decidable (p.Inside d) := inferInstanceAs (Decidable (_ ∧ _))

instance : Decidable (p.Below d) := inferInstanceAs (Decidable (_ ∧ _))

theorem inside_iff : p.Inside d ↔ ∃ rest, p = ⟨d.root, d.parts ++ rest⟩ := by
  constructor
  · rintro ⟨hroot, rest, hrest⟩
    exact ⟨rest, by rw [← hroot, hrest]⟩
  · rintro ⟨rest, rfl⟩
    exact ⟨rfl, List.prefix_append _ _⟩

theorem below_iff : p.Below d ↔ ∃ c rest, p = ⟨d.root, d.parts ++ c :: rest⟩ := by
  rw [Below, inside_iff]
  constructor
  · rintro ⟨⟨rest, rfl⟩, hne⟩
    cases rest with
    | nil => exact absurd (by rw [List.append_nil]) hne
    | cons c rest => exact ⟨c, rest, rfl⟩
  · rintro ⟨c, rest, rfl⟩
    refine ⟨⟨_, rfl⟩, fun h => ?_⟩
    simpa using congrArg (fun q => q.parts.length) h

end Path

namespace OutputDirectory

variable {outDir r : Path}

theorem nameBelow_append (r : Path) (rest : List String) :
    nameBelow ⟨r.root, r.parts ++ rest⟩ r = rest.headD "" := by
  have hprefix : r.parts.isPrefixOf (r.parts ++ rest) = true :=
    List.isPrefixOf_iff_prefix.2 (List.prefix_append _ _)
  simp [nameBelow, Path.relativeTo?, hprefix]

/-- The output directory has a name below the roots that it lies below, and nowhere else. -/
theorem nameBelow_ne_empty_iff (hplain : "" ∉ outDir.parts) :
    nameBelow outDir r ≠ "" ↔ outDir.Below r := by
  rw [Path.below_iff]
  constructor
  · intro h
    obtain ⟨hroot, hprefix⟩ := prefix_of_nameBelow h
    obtain ⟨rest, rfl⟩ := Path.inside_iff.1 ⟨hroot.symm, hprefix⟩
    rw [nameBelow_append] at h
    cases rest with
    | nil => exact absurd rfl h
    | cons c rest => exact ⟨c, rest, rfl⟩
  · rintro ⟨c, rest, rfl⟩ h
    rw [nameBelow_append, List.headD_cons] at h
    simp [h] at hplain

end OutputDirectory

namespace SourceTree

open OutputDirectory

/-- The output directory rule keeps the file from being found. -/
def Hides (t : SourceTree) (f : SourceFile) : Prop := t.filters.outsideOutput f.parts = false

instance (t : SourceTree) (f : SourceFile) : Decidable (t.Hides f) :=
  inferInstanceAs (Decidable (_ = _))

theorem hides_iff {t : SourceTree} {f : SourceFile} :
    t.Hides f ↔ t.filters.outputDir ≠ "" ∧ f.parts.head? = some t.filters.outputDir := by
  rw [Hides, ← Bool.not_eq_true, Scan.outsideOutput_iff, not_or, not_ne_iff]

theorem inside_child_iff {f : SourceFile} {c : String} {rest : List String} :
    f.path.Inside ⟨f.searchRoot.root, f.searchRoot.parts ++ c :: rest⟩ ↔ c :: rest <+: f.parts := by
  simp [Path.Inside, SourceFile.path, List.prefix_append_right_inj]

variable {config : Config} {outDir : Path} {roots : List Path} {names : List String}
  (hplain : "" ∉ outDir.parts) (hnames : List.Perm names (namesBelow outDir roots))

include hplain hnames

/-- What is hidden lies under the first component that the output directory has below some root. -/
theorem name_of_hides {f : SourceFile} (h : (config.sourceTree roots names).Hides f) :
    ∃ r ∈ roots, outDir.Below r ∧ f.parts.head? = some (nameBelow outDir r) := by
  obtain ⟨hne, hhead⟩ := hides_iff.1 h
  have hmem : names.headD "" ∈ names := by
    cases names with
    | nil => exact absurd rfl hne
    | cons n names => exact List.mem_cons_self
  obtain ⟨⟨r, hr, hname⟩, -⟩ := mem_namesBelow.1 (hnames.subset hmem)
  exact ⟨r, hr, (nameBelow_ne_empty_iff hplain).1 (hname ▸ hne), by rw [hhead, hname]; rfl⟩

/-- If the output directory has one name, this is what the files below it are known by. -/
theorem hides_iff_of_oneName (hone : OneName outDir roots) {r : Path} (hr : r ∈ roots)
    (hbelow : outDir.Below r) {f : SourceFile} :
    (config.sourceTree roots names).Hides f ↔ f.parts.head? = some (nameBelow outDir r) := by
  have hne := (nameBelow_ne_empty_iff hplain).2 hbelow
  have hmem : nameBelow outDir r ∈ namesBelow outDir roots := mem_namesBelow.2 ⟨⟨r, hr, rfl⟩, hne⟩
  have hname : names.headD "" = nameBelow outDir r := by
    rw [headD_eq_of_perm hnames (oneName_iff.1 hone)]
    cases hall : namesBelow outDir roots with
    | nil => simp [hall] at hmem
    | cons n ns => exact oneName_iff.1 hone _ (by simp [hall]) _ hmem
  rw [hides_iff]
  simp only [Config.sourceTree, hname, hne, ne_eq, not_false_iff, true_and]

/-- What the output directory rule hides, in whatever order the names come. It hides nothing where
the output directory lies below no root, be it a root itself. What it hides lies under the first
component that the output directory has below some root. If this is the same for all roots that the
output directory lies below, then what is inside the output directory is hidden, and nothing else
where the output directory lies directly in the root. -/
theorem hides_output :
    ((∀ r ∈ roots, ¬outDir.Below r) → ∀ f, ¬(config.sourceTree roots names).Hides f) ∧
    (∀ f, (config.sourceTree roots names).Hides f →
      ∃ r ∈ roots, outDir.Below r ∧ f.parts.head? = some (nameBelow outDir r)) ∧
    (OneName outDir roots → ∀ f, f.searchRoot ∈ roots → outDir.Below f.searchRoot →
      (f.path.Inside outDir → (config.sourceTree roots names).Hides f) ∧
      ((∃ c, outDir = f.searchRoot.child c) →
        ((config.sourceTree roots names).Hides f ↔ f.path.Inside outDir))) := by
  refine ⟨fun hnone f h => ?_, fun f => name_of_hides hplain hnames, fun hone f hf hbelow => ?_⟩
  · obtain ⟨r, hr, hbelow, -⟩ := name_of_hides hplain hnames h
    exact hnone r hr hbelow
  · rw [hides_iff_of_oneName hplain hnames hone hf hbelow]
    constructor
    · obtain ⟨c, rest, rfl⟩ := Path.below_iff.1 hbelow
      rw [inside_child_iff, nameBelow_append]
      rintro ⟨more, hmore⟩
      rw [← hmore]
      rfl
    · rintro ⟨c, rfl⟩
      rw [Path.child, nameBelow_append, inside_child_iff, List.headD_cons]
      cases f.parts <;> simp [eq_comm]

omit hplain hnames

open Verification

theorem hides_output_sources :
    (sourcesOut.Below sourcesRoot ∧ OneName sourcesOut [sourcesRoot] ∧
      (SourceFile.path ⟨sourcesRoot, [".expose", "log.py"]⟩).Inside sourcesOut ∧
      (Config.sourceTree {} [sourcesRoot] [".expose"]).Hides ⟨sourcesRoot, [".expose", "log.py"]⟩ ∧
      ¬(Config.sourceTree {} [sourcesRoot] [".expose"]).Hides ⟨sourcesRoot, ["app", "log.py"]⟩) ∧
    ¬sourcesRoot.Below sourcesRoot ∧
      ¬(Config.sourceTree {} [sourcesRoot] []).Hides ⟨sourcesRoot, ["app", "log.py"]⟩ := by
  have hbelow : sourcesOut.Below sourcesRoot := by decide
  have hone : OneName sourcesOut [sourcesRoot] := by
    simp [OneName]
  have hplain : "" ∉ sourcesOut.parts ∧ "" ∉ sourcesRoot.parts := by decide
  have hinside : (SourceFile.path ⟨sourcesRoot, [".expose", "log.py"]⟩).Inside sourcesOut ∧
      ¬(SourceFile.path ⟨sourcesRoot, ["app", "log.py"]⟩).Inside sourcesOut := by decide
  have hnames : List.Perm [".expose"] (namesBelow sourcesOut [sourcesRoot]) ∧
      List.Perm [] (namesBelow sourcesRoot [sourcesRoot]) := by decide
  have hself : ¬sourcesRoot.Below sourcesRoot := by decide
  obtain ⟨-, -, hrule⟩ := @hides_output {} _ _ _ hplain.1 hnames.1
  obtain ⟨hnone, -⟩ := @hides_output {} _ _ _ hplain.2 hnames.2
  refine ⟨⟨hbelow, hone, hinside.1, ?_, fun h => hinside.2 ?_⟩, hself, hnone (by simp [hself]) _⟩
  · exact (hrule hone ⟨sourcesRoot, [".expose", "log.py"]⟩ (by simp) hbelow).1 hinside.1
  · exact ((hrule hone ⟨sourcesRoot, ["app", "log.py"]⟩ (by simp) hbelow).2 ⟨_, rfl⟩).1 h

/-- A source beside an output directory further down is hidden, and one in an output directory that
is the root itself is not. -/
theorem hides_around_output :
    ["app", "log.py"] ∈ Scan.regularFiles (sourcesTree []) sourcesRoot ∧
    (Config.scanTree {} [sourcesRoot] (Path.absolute ["repo", "app", "out"])).Hides
      ⟨sourcesRoot, ["app", "log.py"]⟩ ∧
    ¬(SourceFile.path ⟨sourcesRoot, ["app", "log.py"]⟩).Inside
      (Path.absolute ["repo", "app", "out"]) ∧
    ¬(Config.scanTree {} [sourcesRoot] sourcesRoot).Hides ⟨sourcesRoot, ["app", "log.py"]⟩ ∧
    (SourceFile.path ⟨sourcesRoot, ["app", "log.py"]⟩).Inside sourcesRoot := by
  refine ⟨?_, by decide⟩
  rw [Scan.regularFiles_eq position_sourcesTree rfl]
  exact List.mem_singleton.2 rfl

end SourceTree

end Exposure
