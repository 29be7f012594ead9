import Exposure.Proofs.Module.RelativeImport
import Exposure.Proofs.Pattern.FileName
import Exposure.Proofs.Scan.Below
import Exposure.Proofs.Scan.Order

/-!
The stem of a source file, under which its class is looked for, and the name of its module. The
names that a scan accepts have their extension in either case, which the stem is without in any
case; the name of the module is without the plain extension only.
-/
namespace Exposure.ModuleName

open Text

/-- The default pattern occurs in the name when case does not count. -/
def IsAccepted (fileName : String) : Prop :=
  ∃ regex, Pattern.parse? { ignoreCase := true } defaultFilePattern = some regex ∧
    regex.occursIn fileName = true

/-- The module name of a file with this stem in these directories. -/
def ofStem (directories : List String) (stem : String) : String :=
  joinStrings "." (if stem = "__init__" then directories else directories ++ [stem])

variable {directories : List String} {fileName : String}

theorem isAccepted_iff : IsAccepted fileName ↔ Pattern.FitsFileName fileName.toList := by
  rw [← Pattern.occursIn_fileNameRegex, IsAccepted]
  simp [Pattern.parse?_defaultFilePattern]

theorem stem_append {s extension : String} (h : '.' ∉ extension.toList) :
    stem (s ++ "." ++ extension) = s := by
  have hname : (s ++ "." ++ extension).toList = s.toList ++ '.' :: extension.toList := by simp
  rw [stem, hname, cutLast_append h]
  exact String.ofList_toList

/-- An accepted name is its stem with one of the extensions. -/
theorem IsAccepted.exists_extension (h : IsAccepted fileName) :
    ∃ extension ∈ Pattern.fileExtensions, fileName = stem fileName ++ "." ++ extension ∧
      ∀ c ∈ ['.', '/', '\\'], c ∉ (stem fileName).toList := by
  obtain ⟨s, extension, hextension, rfl, hs⟩ := (isAccepted_iff.1 h).exists_stem
  have hdot : ∀ e ∈ Pattern.fileExtensions, '.' ∉ e.toList := by decide
  rw [stem_append (hdot extension hextension)]
  exact ⟨extension, hextension, rfl, hs⟩

theorem IsAccepted.notMem (h : IsAccepted fileName) {c : Char} (hc : c ∈ ['/', '\\']) :
    c ∉ fileName.toList := by
  obtain ⟨extension, hextension, hname, hs⟩ := h.exists_extension
  have hslash : ∀ e ∈ Pattern.fileExtensions,
      '/' ∉ ("." ++ e).toList ∧ '\\' ∉ ("." ++ e).toList := by decide
  rw [hname, String.append_assoc, String.toList_append, List.mem_append, not_or]
  refine ⟨hs c (List.mem_cons_of_mem _ hc), ?_⟩
  obtain rfl | rfl : c = '/' ∨ c = '\\' := by simpa using hc
  · exact (hslash extension hextension).1
  · exact (hslash extension hextension).2

theorem withoutExtension_of_ne (h : fileName ≠ stem fileName ++ ".py") :
    withoutExtension fileName = fileName := by
  rw [withoutExtension]
  refine if_neg fun hsuffix => h ?_
  obtain ⟨s, hs⟩ := List.isSuffixOf_iff_suffix.1 hsuffix
  have hname : fileName = String.ofList s ++ "." ++ "py" := by
    apply String.toList_inj.1
    simpa using hs.symm
  rw [hname, stem_append (by decide), String.append_assoc]
  rfl

/-- A scan with the default pattern finds files with accepted names. -/
theorem isAccepted_of_mem {fs : FileSystem} {filters : Scan.Filters} {nested : Bool} {root : Path}
    {files : List SourceFile}
    (h : Scan.filesBelow fs defaultFilePattern filters nested root = .ok files) {f : SourceFile}
    (hf : f ∈ files) : IsAccepted f.name := by
  unfold Scan.filesBelow Scan.filesBelowBy at h
  split at h
  · cases h
  · rename_i isName hname
    obtain ⟨regex, hregex, rfl⟩ := Scan.standard_pattern_eq_some.1 hname
    obtain ⟨test, -, h⟩ := bind_eq_ok.1 h
    obtain ⟨-, rfl⟩ := Scan.select_eq_ok.1 (mapError_eq_ok.1 h)
    have haccepts := (List.mem_filter.1 (Scan.mem_inOrder.1 hf)).2
    exact ⟨regex, hregex, (Scan.accepts_eq_true.1 (of_decide_eq_true haccepts)).1⟩

section Path

variable (hdirectories : ∀ d ∈ directories, IsIdentifier d) (haccepted : IsAccepted fileName)

include hdirectories haccepted

theorem ofPath_of_eq (h : fileName = stem fileName ++ ".py") :
    ofPath (joinStrings "/" (directories ++ [fileName])) = ofStem directories (stem fileName) := by
  obtain ⟨-, -, -, hs⟩ := haccepted.exists_extension
  have hpath := ofPath_filePath hdirectories (hs '/' (by simp)) (hs '\\' (by simp))
  rwa [filePath, ← h] at hpath

theorem ofPath_of_ne (h : fileName ≠ stem fileName ++ ".py") :
    ofPath (joinStrings "/" (directories ++ [fileName])) =
      joinStrings "." (directories ++ [fileName]) := by
  obtain ⟨extension, -, hname, -⟩ := haccepted.exists_extension
  have hdot : '.' ∈ fileName.toList := by
    rw [hname]
    simp
  have hpackage : fileName ≠ "__init__" := by
    rintro rfl
    exact absurd hdot (by decide)
  have hempty : fileName ≠ "" := by
    rintro rfl
    cases hdot
  rw [ofPath_joinStrings hdirectories (haccepted.notMem (by simp)) (haccepted.notMem (by simp))
    hempty, withoutExtension_of_ne h, if_neg hpackage]

/-- A module name with the extension in it has a part more than the one of the stem. -/
theorem joinStrings_ne_ofStem :
    joinStrings "." (directories ++ [fileName]) ≠ ofStem directories (stem fileName) := by
  obtain ⟨extension, hextension, hname, hs⟩ := haccepted.exists_extension
  have hdots := dot_notMem hdirectories
  have hdot : '.' ∉ (stem fileName).toList := hs '.' (by simp)
  have hextensionDot : ∀ e ∈ Pattern.fileExtensions, '.' ∉ e.toList := by decide
  have hparts : splitString '.' fileName = [stem fileName, extension] := by
    have hchars : fileName.toList = (stem fileName).toList ++ '.' :: extension.toList := by
      conv_lhs => rw [hname]
      simp
    rw [splitString, hchars, splitAt_append hdot,
      splitAt_of_notMem (hextensionDot extension hextension)]
    simp
  have hlong : (splitString '.' (joinStrings "." (directories ++ [fileName]))).length =
      directories.length + 2 := by
    have hsplit := splitString_joinStrings_concat hdots fileName
    rw [show String.singleton '.' = "." from rfl, hparts] at hsplit
    rw [hsplit, List.length_append]
    rfl
  have hshort : (splitString '.' (ofStem directories (stem fileName))).length ≤
      directories.length + 1 := by
    rw [ofStem]
    split
    · rcases List.eq_nil_or_concat directories with rfl | ⟨p, d, rfl⟩
      · exact Nat.le_refl _
      · have hsplit := splitString_joinStrings (by simp) hdots
        rw [show String.singleton '.' = "." from rfl] at hsplit
        rw [hsplit]
        exact Nat.le_succ _
    · have hsplit := splitString_joinStrings_concat hdots (stem fileName)
      rw [show String.singleton '.' = "." from rfl] at hsplit
      rw [hsplit, List.length_append, length_splitString_eq_one_iff.2 hdot]
  intro h
  rw [h] at hlong
  omega

/-- In directories with plain names the name that the default pattern accepts is a stem with the
extension in either case, perhaps before a line break. The module is named by the directories and
the stem just if the extension is the plain one; otherwise the whole file name is the last part of
its name. -/
theorem ofPath_accepted :
    (∃ extension ∈ Pattern.fileExtensions, fileName = stem fileName ++ "." ++ extension) ∧
    (ofPath (joinStrings "/" (directories ++ [fileName])) = ofStem directories (stem fileName) ↔
      fileName = stem fileName ++ ".py") ∧
    (fileName ≠ stem fileName ++ ".py" → ofPath (joinStrings "/" (directories ++ [fileName])) =
      joinStrings "." (directories ++ [fileName])) := by
  obtain ⟨extension, hextension, hname, -⟩ := haccepted.exists_extension
  refine ⟨⟨extension, hextension, hname⟩, ⟨fun h => ?_, ofPath_of_eq hdirectories haccepted⟩,
    ofPath_of_ne hdirectories haccepted⟩
  by_contra hne
  rw [ofPath_of_ne hdirectories haccepted hne] at h
  exact joinStrings_ne_ofStem hdirectories haccepted h

end Path

theorem ofPath_accepted_handler :
    IsAccepted "log_handler.py" ∧ stem "log_handler.py" = "log_handler" ∧
      ofPath "app/log_handler.py" = ofStem ["app"] "log_handler" := by
  have haccepted : IsAccepted "log_handler.py" :=
    ⟨_, Pattern.parse?_defaultFilePattern, by decide +kernel⟩
  obtain ⟨-, hstem, -⟩ := ofPath_accepted
    (List.forall_mem_singleton.2 (by decide +kernel : IsIdentifier "app")) haccepted
  exact ⟨haccepted, by decide +kernel, hstem.2 (by decide +kernel)⟩

/-- The class of a file with the extension in capitals is looked for under its stem, in a module
that is not called so. -/
theorem ofPath_upperExtension :
    IsIdentifier "app" ∧ IsAccepted "Upper.PY" ∧ stem "Upper.PY" = "Upper" ∧
      ofPath "app/Upper.PY" = "app.Upper.PY" ∧ ofStem ["app"] "Upper" = "app.Upper" := by
  refine ⟨by decide +kernel, ⟨_, Pattern.parse?_defaultFilePattern, by decide +kernel⟩, ?_⟩
  decide +kernel

end Exposure.ModuleName
