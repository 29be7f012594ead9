import Exposure.Module.Load
import Exposure.Source.Imports
import Exposure.Proofs.Text.Split

/-!
Relative imports in the module of a file. A run resolves them from the package that the module
belongs to, the table of import names from the name of the module. The two agree in a module that
stands in its package; the file of a package itself gives the name of the package, from which the
table takes one part too many.
-/
namespace Exposure

namespace ModuleName

open Text

/-- A name that can stand in the statement of an import. -/
def IsIdentifier (name : String) : Prop :=
  name ≠ "" ∧ name.toList.all isIdentifierContinue = true

instance (name : String) : Decidable (IsIdentifier name) := inferInstanceAs (Decidable (_ ∧ _))

/-- The path of a module file below a search root. -/
def filePath (directories : List String) (stem : String) : String :=
  joinStrings "/" (directories ++ [stem ++ ".py"])

/-- The name that `level` dots and a name mean in a file in these directories: each dot but the
first leads out of one of them. -/
def inPackage (directories : List String) (level : Nat) (relative : String) : String :=
  joinStrings "." (directories.take (directories.length + 1 - level) ++ [relative])

theorem IsIdentifier.notMem {name : String} (h : IsIdentifier name) {c : Char}
    (hc : isIdentifierContinue c = false) : c ∉ name.toList := fun hmem => by
  rw [List.all_eq_true.1 h.2 c hmem] at hc
  cases hc

theorem withoutExtension_append (stem : String) : withoutExtension (stem ++ ".py") = stem := by
  have hsuffix : ".py".toList.isSuffixOf (stem.toList ++ ".py".toList) = true :=
    List.isSuffixOf_iff_suffix.2 (List.suffix_append _ _)
  rw [withoutExtension, String.toList_append]
  simp only [hsuffix, if_true, List.length_append]
  have hlength : stem.toList.length + ".py".toList.length - 3 = stem.toList.length := rfl
  rw [hlength, List.take_left, String.ofList_toList]

section Path

variable {directories : List String} {fileName : String}
  (hdirectories : ∀ d ∈ directories, IsIdentifier d) (hslash : '/' ∉ fileName.toList)
  (hbackslash : '\\' ∉ fileName.toList) (hname : fileName ≠ "")

include hdirectories hslash hbackslash hname

theorem parts_path :
    ((splitString '/' (String.ofList ((joinStrings "/" (directories ++ [fileName])).toList.map
      fun c => if c = '\\' then '/' else c))).filter (· ≠ "")) = directories ++ [fileName] := by
  have hnone : ∀ c ∈ (joinStrings "/" (directories ++ [fileName])).toList, c ≠ '\\' := by
    intro c hc heq
    subst heq
    rw [joinStrings, String.toList_ofList] at hc
    obtain hc | ⟨p, hp, hc⟩ := mem_of_mem_joinWith hc
    · exact absurd hc (by decide)
    · obtain ⟨d, hd, rfl⟩ := List.mem_map.1 hp
      obtain hd | hd := List.mem_append.1 hd
      · exact (hdirectories d hd).notMem (by decide) hc
      · rw [List.mem_singleton.1 hd] at hc
        exact hbackslash hc
  have hmap : (joinStrings "/" (directories ++ [fileName])).toList.map
      (fun c => if c = '\\' then '/' else c) =
        (joinStrings "/" (directories ++ [fileName])).toList := by
    refine (List.map_congr_left fun c hc => ?_).trans (List.map_id _)
    rw [if_neg (hnone c hc), id]
  have hparts : splitString '/' (joinStrings "/" (directories ++ [fileName])) =
      directories ++ [fileName] := by
    refine splitString_joinStrings (by simp) fun t ht => ?_
    obtain ht | ht := List.mem_append.1 ht
    · exact (hdirectories t ht).notMem (by decide)
    · rwa [List.mem_singleton.1 ht]
  rw [hmap, String.ofList_toList, hparts, List.filter_eq_self]
  intro t ht
  obtain ht | ht := List.mem_append.1 ht
  · simpa using (hdirectories t ht).1
  · simpa [List.mem_singleton.1 ht] using hname

/-- The name of a module is made of the directories and the name of its file without the extension,
that of a package of the directories alone. -/
theorem ofPath_joinStrings : ofPath (joinStrings "/" (directories ++ [fileName])) =
    joinStrings "." (if withoutExtension fileName = "__init__" then directories
      else directories ++ [withoutExtension fileName]) := by
  have hparts := parts_path hdirectories hslash hbackslash hname
  rw [ofPath]
  simp only [hparts, List.getLast?_concat, List.dropLast_concat, Option.some.injEq]

end Path

section File

variable {directories : List String} {stem : String}
  (hdirectories : ∀ d ∈ directories, IsIdentifier d) (hslash : '/' ∉ stem.toList)
  (hbackslash : '\\' ∉ stem.toList)

include hdirectories hslash hbackslash

theorem ofPath_filePath : ofPath (filePath directories stem) =
    joinStrings "." (if stem = "__init__" then directories else directories ++ [stem]) := by
  have hnone {c : Char} (hc : c ∉ stem.toList) (hpy : c ∉ ".py".toList) :
      c ∉ (stem ++ ".py").toList := by
    rw [String.toList_append, List.mem_append, not_or]
    exact ⟨hc, hpy⟩
  rw [filePath, ofPath_joinStrings hdirectories (hnone hslash (by decide))
    (hnone hbackslash (by decide)) (by simp), withoutExtension_append]

end File

section Resolution

variable {directories : List String} {stem relative : String} {level : Nat}
  (hdirectories : ∀ d ∈ directories, IsIdentifier d)

theorem resolveRelative_eq {importing : String}
    (hlevel : level ≤ (splitString '.' importing).length) (hrelative : relative ≠ "") :
    resolveRelative importing relative level = joinStrings "."
      ((splitString '.' importing).take ((splitString '.' importing).length - level) ++
        [relative]) := by
  rw [resolveRelative]
  simp only [Nat.not_lt.2 hlevel, if_false, hrelative, ne_eq, not_false_iff, if_true]

/-- A dotted name that goes on from a package tells how many parts come from the package. -/
theorem length_of_joinStrings_concat {p q : List String} (hp : ∀ d ∈ p, '.' ∉ d.toList)
    (hq : ∀ d ∈ q, '.' ∉ d.toList)
    (h : joinStrings "." (p ++ [relative]) = joinStrings "." (q ++ [relative])) :
    p.length = q.length := by
  have hsplit := congrArg (splitString '.') h
  have hcut := splitString_joinStrings_concat hp relative
  have hcut' := splitString_joinStrings_concat hq relative
  rw [show String.singleton '.' = "." from rfl] at hcut hcut'
  rw [hcut, hcut'] at hsplit
  simpa using congrArg List.length hsplit

include hdirectories

theorem dot_notMem : ∀ d ∈ directories, '.' ∉ d.toList := fun d hd =>
  (hdirectories d hd).notMem (by decide)

/-- The file of a package: its name counts as that of a module in the package above. -/
theorem resolveRelative_package (hdepth : level ≤ directories.length) (hne : directories ≠ [])
    (hrelative : relative ≠ "") :
    resolveRelative (ofPath (filePath directories "__init__")) relative level =
      joinStrings "." (directories.take (directories.length - level) ++ [relative]) := by
  have hsplit : splitString '.' (joinStrings "." directories) = directories :=
    splitString_joinStrings hne (dot_notMem hdirectories)
  rw [ofPath_filePath hdirectories (by decide) (by decide), if_pos rfl]
  rw [resolveRelative_eq (by rwa [hsplit]) hrelative, hsplit]

/-- A file in a package: one part of its name for each dot is taken away. -/
theorem resolveRelative_file (hslash : '/' ∉ stem.toList) (hbackslash : '\\' ∉ stem.toList)
    (hstem : stem ≠ "__init__") (hdepth : level ≤ directories.length) (hrelative : relative ≠ "") :
    resolveRelative (ofPath (filePath directories stem)) relative level =
      joinStrings "." ((directories ++ splitString '.' stem).take
        (directories.length + (splitString '.' stem).length - level) ++ [relative]) := by
  have hsplit : splitString '.' (joinStrings "." (directories ++ [stem])) =
      directories ++ splitString '.' stem :=
    splitString_joinStrings_concat (dot_notMem hdirectories) stem
  rw [ofPath_filePath hdirectories hslash hbackslash, if_neg hstem]
  rw [resolveRelative_eq (by rw [hsplit, List.length_append]; omega) hrelative, hsplit,
    List.length_append]

end Resolution

theorem directories_ne_nil {directories : List String} {level : Nat} (hlevel : 1 ≤ level)
    (hdepth : level ≤ directories.length) : directories ≠ [] := by
  rintro rfl
  exact absurd hdepth (Nat.not_le.2 hlevel)

section Run

variable {directories : List String} {stem relative : String} {level : Nat}
  (hdirectories : ∀ d ∈ directories, IsIdentifier d) (hlevel : 1 ≤ level)
  (hdepth : level ≤ directories.length) (hrelative : relative ≠ "")

include hdirectories hlevel hdepth hrelative

/-- A run takes a dot less than there are from the package that the module belongs to. -/
theorem resolveImport_eq {m : Module} (hpackage : m.package = joinStrings "." directories) :
    m.resolveImport relative level = .ok (inPackage directories level relative) := by
  have hne := directories_ne_nil hlevel hdepth
  have hsplit : splitString '.' m.package = directories := by
    rw [hpackage]
    exact splitString_joinStrings hne (dot_notMem hdirectories)
  have hsome : m.package ≠ "" := by
    intro h
    rw [h] at hsplit
    exact (hdirectories "" (hsplit ▸ List.mem_singleton_self "")).1 rfl
  have htake : directories.take (directories.length + 1 - level) ≠ [] := by
    rw [Ne, List.take_eq_nil_iff, not_or]
    exact ⟨by omega, hne⟩
  rw [Module.resolveImport, if_neg (by omega), if_neg hsome]
  simp only [hsplit, Nat.not_lt.2 hdepth, hrelative, if_false, inPackage,
    joinStrings_concat htake]

theorem resolveImport_package (directory : Path) :
    (Module.ofOrigin (ofPath (filePath directories "__init__"))
      (.package directory)).1.resolveImport relative level = .ok (inPackage directories level relative) := by
  apply resolveImport_eq hdirectories hlevel hdepth hrelative
  rw [ofPath_filePath hdirectories (by decide) (by decide), if_pos rfl]
  rfl

theorem resolveImport_file (hslash : '/' ∉ stem.toList) (hbackslash : '\\' ∉ stem.toList)
    (hstem : stem ≠ "__init__") (hdot : '.' ∉ stem.toList) (file : Path) :
    (Module.ofOrigin (ofPath (filePath directories stem)) (.file file)).1.resolveImport
      relative level = .ok (inPackage directories level relative) := by
  have hne := directories_ne_nil hlevel hdepth
  have hname : (ofPath (filePath directories stem)).toList =
      (joinStrings "." directories).toList ++ '.' :: stem.toList := by
    rw [ofPath_filePath hdirectories hslash hbackslash, if_neg hstem, joinStrings_concat hne]
    simp
  apply resolveImport_eq hdirectories hlevel hdepth hrelative
  simp only [Module.ofOrigin, hname, cutLast_append hdot, String.ofList_toList]

/-- A name that leads out of one directory too many, or takes a part of the file's name for one, is
longer or shorter than what is meant. -/
theorem resolveRelative_eq_inPackage_iff (hslash : '/' ∉ stem.toList)
    (hbackslash : '\\' ∉ stem.toList) :
    resolveRelative (ofPath (filePath directories stem)) relative level =
      inPackage directories level relative ↔ stem ≠ "__init__" ∧ '.' ∉ stem.toList := by
  have hdots : ∀ (n : Nat), ∀ d ∈ directories.take n, '.' ∉ d.toList := fun n d hd =>
    dot_notMem hdirectories d (List.mem_of_mem_take hd)
  constructor
  · intro h
    have hstem : stem ≠ "__init__" := by
      rintro rfl
      rw [resolveRelative_package hdirectories hdepth (directories_ne_nil hlevel hdepth)
        hrelative] at h
      have hlength := length_of_joinStrings_concat (hdots _) (hdots _) h
      rw [List.length_take, List.length_take] at hlength
      omega
    refine ⟨hstem, length_splitString_eq_one_iff.1 ?_⟩
    rw [resolveRelative_file hdirectories hslash hbackslash hstem hdepth hrelative] at h
    have hparts : ∀ d ∈ directories ++ splitString '.' stem, '.' ∉ d.toList := by
      intro d hd
      obtain hd | hd := List.mem_append.1 hd
      · exact dot_notMem hdirectories d hd
      · obtain ⟨part, hpart, rfl⟩ := List.mem_map.1 hd
        rw [String.toList_ofList]
        exact sep_notMem_of_mem_splitAt hpart
    have hlength := length_of_joinStrings_concat
      (fun d hd => hparts d (List.mem_of_mem_take hd)) (hdots _) h
    rw [List.length_take, List.length_take, List.length_append] at hlength
    omega
  · rintro ⟨hstem, hdot⟩
    have hone := length_splitString_eq_one_iff.2 hdot
    rw [resolveRelative_file hdirectories hslash hbackslash hstem hdepth hrelative, hone,
      List.take_append_of_le_length (by omega), inPackage]

/-- Relative imports in the file `stem` below directories with plain names. The table of import
names gives what the dots mean there, the directories without as many of the last as there are dots
but one, in every file other than that of a package; in this file it leads out of one directory
more. A file with another dot in its name is not the file of any module. A run of the module
resolves the import as it is meant in both. -/
theorem resolveRelative_ofPath (hslash : '/' ∉ stem.toList) (hbackslash : '\\' ∉ stem.toList) :
    (resolveRelative (ofPath (filePath directories stem)) relative level =
      inPackage directories level relative ↔ stem ≠ "__init__" ∧ '.' ∉ stem.toList) ∧
    resolveRelative (ofPath (filePath directories "__init__")) relative level =
      inPackage directories (level + 1) relative ∧
    (∀ directory, (Module.ofOrigin (ofPath (filePath directories "__init__"))
        (.package directory)).1.resolveImport relative level =
      .ok (inPackage directories level relative)) ∧
    (stem ≠ "__init__" → '.' ∉ stem.toList → ∀ file,
      (Module.ofOrigin (ofPath (filePath directories stem)) (.file file)).1.resolveImport
        relative level = .ok (inPackage directories level relative)) := by
  have hpackage := resolveRelative_package hdirectories hdepth
    (directories_ne_nil hlevel hdepth) hrelative
  refine ⟨?_, ?_, ?_, ?_⟩
  · exact resolveRelative_eq_inPackage_iff hdirectories hlevel hdepth hrelative hslash hbackslash
  · rw [hpackage, inPackage]
    congr 3
    omega
  · exact resolveImport_package hdirectories hlevel hdepth hrelative
  · intro hstem hdot
    exact resolveImport_file hdirectories hlevel hdepth hrelative hslash hbackslash hstem hdot

end Run

theorem resolveRelative_ofPath_views :
    filePath ["app", "web"] "views" = "app/web/views.py" ∧
    resolveRelative (ofPath "app/web/views.py") "shared" 2 = "app.shared" ∧
    resolveRelative (ofPath "app/web/__init__.py") "shared" 2 = "shared" ∧
    (Module.ofOrigin "app.web" (.package (Path.absolute ["repo", "app", "web"]))).1.resolveImport
      "shared" 2 = .ok "app.shared" := by
  have hnames : ∀ d ∈ ["app", "web"], IsIdentifier d :=
    List.forall_mem_cons.2 ⟨by decide +kernel, List.forall_mem_singleton.2 (by decide +kernel)⟩
  obtain ⟨htable, hpackage, hrun, -⟩ := @resolveRelative_ofPath _ "views" "shared" 2 hnames
    (by decide) (by decide) (by decide) (by decide) (by decide)
  exact ⟨by decide +kernel, htable.2 ⟨by decide, by decide⟩, hpackage, hrun _⟩

/-- In the file of a package the table gives another name for an import than the one that the run
loads. -/
theorem resolveRelative_own_package :
    ofPath "pkg/__init__.py" = "pkg" ∧ inPackage ["pkg"] 1 "base" = "pkg.base" ∧
    resolveRelative "pkg" "base" 1 = "base" ∧
    Source.importAliases "pkg" "from .base import Base\n" = [("Base", "base.Base")] ∧
    (Module.ofOrigin "pkg" (.package (Path.absolute ["repo", "pkg"]))).1.resolveImport "base" 1 =
      .ok "pkg.base" := by
  refine ⟨by decide +kernel, by decide +kernel, by decide +kernel, by decide +kernel, ?_⟩
  rfl

end ModuleName
end Exposure
