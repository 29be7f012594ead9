import Exposure.Proofs.FileSystem.Entry
import Exposure.Proofs.Text.Split
import Exposure.Scan.Files
import Mathlib.Data.String.Basic

/-!
The order of scanned files. Below one search root no two files have the same written path, so the
order of these paths is strict, and it does not depend on the order in which the files come.
-/
namespace Exposure

namespace Text

theorem intercalate_eq_joinStrings (sep : String) (parts : List String) :
    sep.intercalate parts = joinStrings sep parts := by
  rw [← String.toList_inj, String.toList_intercalate, joinStrings, String.toList_ofList]
  induction parts with
  | nil => rfl
  | cons p ps ih =>
      cases ps with
      | nil => simp [joinWith]
      | cons q qs =>
          simp only [List.map_cons] at ih ⊢
          rw [List.intercalate_cons_cons, ih, joinWith]

end Text

namespace Scan

/-- The path of the file below its search root has components, and they are names that directories
can list. -/
structure Named (f : SourceFile) : Prop where
  notRoot : f.parts ≠ []
  names : ∀ name ∈ f.parts, IsEntryName name

theorem parts_eq_of_relativePath_eq {f g : SourceFile} (hf : Named f) (hg : Named g)
    (h : f.relativePath = g.relativePath) : f.parts = g.parts := by
  refine Text.joinStrings_inj '/' hf.notRoot hg.notRoot (fun t ht => (hf.names t ht).noSlash)
    (fun t ht => (hg.names t ht).noSlash) ?_
  have hjoin := h
  rw [SourceFile.relativePath, SourceFile.relativePath, Text.intercalate_eq_joinStrings,
    Text.intercalate_eq_joinStrings] at hjoin
  exact hjoin

/-- The files have different written paths. -/
def Distinct (files : List SourceFile) : Prop :=
  files.Pairwise fun f g => f.relativePath ≠ g.relativePath

theorem distinct_below {root : Path} {places : List (List String)} (hnodup : places.Nodup)
    (hnamed : ∀ p ∈ places, Named ⟨root, p⟩) :
    Distinct (places.map fun p => ⟨root, p⟩) := by
  refine List.pairwise_map.2 (hnodup.imp_of_mem fun {p q} hp hq hne heq => hne ?_)
  exact parts_eq_of_relativePath_eq (hnamed p hp) (hnamed q hq) heq

theorem inOrder_perm (files : List SourceFile) : (inOrder files).Perm files :=
  List.mergeSort_perm files _

theorem mem_inOrder {f : SourceFile} {files : List SourceFile} :
    f ∈ inOrder files ↔ f ∈ files :=
  (inOrder_perm files).mem_iff

theorem inOrder_pairwise {files : List SourceFile} (h : Distinct files) :
    (inOrder files).Pairwise fun f g => f.relativePath < g.relativePath := by
  have hle : (inOrder files).Pairwise fun f g =>
      (!decide (g.relativePath < f.relativePath)) = true := by
    refine List.pairwise_mergeSort (fun f g k hfg hgk => ?_) (fun f g => ?_) files
    · simp only [Bool.not_eq_true', decide_eq_false_iff_not, not_lt] at hfg hgk ⊢
      exact hfg.trans hgk
    · simp only [Bool.or_eq_true, Bool.not_eq_true', decide_eq_false_iff_not, not_lt]
      exact le_total _ _
  have hne : Distinct (inOrder files) :=
    ((inOrder_perm files).pairwise_iff fun h => h.symm).2 h
  refine (hle.and hne).imp fun {f g} hfg => ?_
  simp only [Bool.not_eq_true', decide_eq_false_iff_not, not_lt] at hfg
  exact lt_of_le_of_ne hfg.1 hfg.2

/-- The same files in another order come out in the same order. -/
theorem inOrder_eq_of_perm {files files' : List SourceFile} (h : Distinct files)
    (hperm : files'.Perm files) : inOrder files' = inOrder files := by
  have h' : Distinct files' := (hperm.pairwise_iff fun h => h.symm).2 h
  refine List.Perm.eq_of_pairwise (fun f g _ _ hfg hgf => absurd hfg (lt_asymm hgf))
    (inOrder_pairwise h') (inOrder_pairwise h) ?_
  exact (inOrder_perm files').trans (hperm.trans (inOrder_perm files).symm)

/-- Files in strict order are known by what they are. -/
theorem eq_of_mem_iff {files files' : List SourceFile}
    (h : files.Pairwise fun f g => f.relativePath < g.relativePath)
    (h' : files'.Pairwise fun f g => f.relativePath < g.relativePath)
    (hmem : ∀ f, f ∈ files ↔ f ∈ files') : files = files' := by
  have hnodup {fs : List SourceFile}
      (hfs : fs.Pairwise fun f g => f.relativePath < g.relativePath) : fs.Nodup :=
    hfs.imp fun {f g} hlt (heq : f = g) => absurd hlt (heq ▸ lt_irrefl _)
  refine List.Perm.eq_of_pairwise (fun f g _ _ hfg hgf => absurd hfg (lt_asymm hgf)) h h' ?_
  exact (List.perm_ext_iff_of_nodup (hnodup h) (hnodup h')).2 hmem

end Scan
end Exposure
