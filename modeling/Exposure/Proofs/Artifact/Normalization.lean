import Exposure.Proofs.Artifact.Loading
import Exposure.Proofs.Artifact.Persistence
import Exposure.Proofs.Purpose.Faultless

/-!
Loading brings a document into a normal form in one step, whatever document it is. The index that
is loaded has a document of its own, which loads again, has itself as its document, and answers
every search like the first one. What the validator accepts it accepts in this form too, and has
nothing to warn about.
-/
namespace Exposure

namespace Artifact

theorem readTree_eq_ok {v : Json} {t : PurposeTree} :
    readTree v = .ok t ↔ PurposeTree.ofJson v = .ok t := by
  rw [readTree]
  cases PurposeTree.ofJson v <;> simp

/-- The trees of an index that was read have been read. -/
theorem trees_of_toIndex {ms : List (String × Json)} {i : Index} (h : toIndex ms = .ok i) :
    (∃ v, PurposeTree.ofJson v = .ok i.classPurposes) ∧
      ∃ v, PurposeTree.ofJson v = .ok i.methodPurposes := by
  simp only [toIndex, bind_eq_ok, readTree_eq_ok] at h
  obtain ⟨_, hclass, _, hmethod, _, -, _, -, hi⟩ := h
  cases hi
  exact ⟨⟨_, hclass⟩, ⟨_, hmethod⟩⟩

/-- Every document that loads has a normal form: the document of the index that it loads as. This
loads too, and has itself as its normal form; every search of either index succeeds, and gives the
same hits in both; and both list the same names in the same order. -/
theorem ofMembers_normalizes {ms : List (String × Json)} {i : Index} (h : ofMembers ms = .ok i) :
    ∃ normal j, ofIndex i = .object normal ∧ ofMembers normal = .ok j ∧
      ofIndex j = .object normal ∧
      (∀ pattern ancestors, ∃ hits, i.classPurposes.search pattern ancestors = .ok hits ∧
        j.classPurposes.search pattern ancestors = .ok hits) ∧
      (∀ pattern ancestors, ∃ hits, i.methodPurposes.search pattern ancestors = .ok hits ∧
        j.methodPurposes.search pattern ancestors = .ok hits) ∧
      j.classes.keys = i.classes.keys ∧ j.methods.keys = i.methods.keys := by
  have hread : toIndex ms = .ok i := by
    unfold ofMembers at h
    split at h
    · cases h
      assumption
    · cases h
  obtain ⟨⟨v, hclass⟩, w, hmethod⟩ := trees_of_toIndex hread
  obtain ⟨hclassNormal, hclassFault⟩ := PurposeTree.normal_of_ofJson hclass
  obtain ⟨hmethodNormal, hmethodFault⟩ := PurposeTree.normal_of_ofJson hmethod
  have hnormal : i.normalTrees = i := by rw [Index.normalTrees, hclassNormal, hmethodNormal]
  have hdocument := ofIndex_eq_sectionsOf i
  have hagain := toIndex_sectionsOf hclassFault hmethodFault
  have hrestored := ofIndex_restored i
  rw [hnormal] at hdocument hagain hrestored
  refine ⟨sectionsOf i, i.readBack, hdocument, by rw [ofMembers, hagain],
    hrestored.trans hdocument, fun pattern ancestors => ?_, fun pattern ancestors => ?_,
    Table.keys_mapValues _ _, Table.keys_mapValues _ _⟩
  · obtain ⟨hits, hsearch⟩ := PurposeTree.search_of_faultless hclassFault pattern ancestors
    exact ⟨hits, hsearch, hsearch⟩
  · obtain ⟨hits, hsearch⟩ := PurposeTree.search_of_faultless hmethodFault pattern ancestors
    exact ⟨hits, hsearch, hsearch⟩

/-- A document with a text and an object for buckets, a long field name beside a short one, a flag
that is spelled out, an empty text, a record that is null, and sections that are null or missing. -/
def looseMembers : List (String × Json) := [
  ("purposes", .object [
    (bucketKey, .string "ab"),
    ("log", .object [(bucketKey, .object [("app.Log", .null)]), ("ADD", .object [])])]),
  ("method_purposes", .null),
  ("classes", .object [
    ("app.Log", .object [("is_abstract", .string "YES"), ("display", .string ""),
      ("methodNames", .strings ["add"])]),
    ("app.Bare", .null)])]

/-- The index that it loads as. -/
def looseIndex : Index where
  classPurposes := ⟨[
    (bucketKey, .array [.string "a", .string "b"]),
    ("log", .object [(bucketKey, .array [.string "app.Log"]), ("ADD", .object [])])]⟩
  classes := (Table.empty.insert "app.Log"
    { qualifiedName := "app.Log", isAbstract := true, displayName := some "",
      methodNames := ["add"] }).insert "app.Bare" { qualifiedName := "app.Bare" }

theorem ofMembers_normalizes_loose :
    ofMembers looseMembers = .ok looseIndex ∧
    ∃ normal j, ofIndex looseIndex = .object normal ∧ ofMembers normal = .ok j ∧
      ofIndex j = .object normal ∧ j.classes.keys = ["app.Log", "app.Bare"] := by
  have hload : ofMembers looseMembers = .ok looseIndex := by rfl
  obtain ⟨normal, j, hdocument, hread, hagain, -, -, hkeys, -⟩ := ofMembers_normalizes hload
  exact ⟨hload, normal, j, hdocument, hread, hagain, hkeys.trans (by decide)⟩

/-- The normal form of a document that the validator accepts is accepted without a remark. -/
theorem documentRemarks_ofIndex_of_holds {ms : List (String × Json)} {i : Index}
    (hd : Json.DistinctMembers ms) (h : Holds ms i) (hi : i.Consistent) :
    documentRemarks (some (ofIndex i)) = .ok {} :=
  documentRemarks_ofIndex (h.regular_classPurposes hd hi) (h.regular_methodPurposes hd hi)
    (hi.readBack (filed_of_holds h hd).methods)

theorem validate_of_documentRemarks {fs : FileSystem} {directory : Path} {v : Json}
    (hdirectory : fs.isDirectory directory = true) (hv : documentIn fs directory = some v)
    (hremarks : documentRemarks (some v) = .ok {}) : validate fs directory = .ok {} := by
  have hfile : fs.pathExists (directory.child fileName) = true := by
    by_contra hmissing
    rw [Bool.not_eq_true] at hmissing
    rw [documentIn, bytes?_eq_none_of_not_pathExists hmissing] at hv
    cases hv
  rw [validate_of_pathExists hdirectory hfile, hv, hremarks]
  rfl

/-- A document that the validator accepts, with whatever warnings, is read as an index, and the
document of this index is accepted without errors or warnings, wherever it stands. -/
theorem validate_ofIndex_of_validate {fs : FileSystem} {directory : Path}
    {result : ValidationResult} (h : validate fs directory = .ok result) (hok : result.ok = true) :
    ∃ ms i, documentIn fs directory = some (.object ms) ∧ ofMembers ms = .ok i ∧
      documentRemarks (some (ofIndex i)) = .ok {} ∧
      ∀ fs' directory', fs'.isDirectory directory' = true →
        documentIn fs' directory' = some (ofIndex i) → validate fs' directory' = .ok {} := by
  obtain ⟨-, haccepted⟩ := validate_eq_ok_iff.1 ⟨result, h, hok⟩
  obtain ⟨ms, i, hdocument, hold, hi⟩ := documentRemarks_ok_iff.1 haccepted
  have hd : Json.DistinctMembers ms := distinct_documentIn hdocument ms rfl
  have hremarks := documentRemarks_ofIndex_of_holds hd hold hi
  refine ⟨ms, i, hdocument, ?_, hremarks, fun fs' directory' hdirectory hv => ?_⟩
  · rw [ofMembers, toIndex_eq hd hold hi]
  · exact validate_of_documentRemarks hdirectory hv hremarks

/-- A document with an empty text, a flag that is spelled out, and a section that nobody knows. -/
def notedText : String :=
  "\x7b\"purposes\":\x7b\"LOG\":\x7b\"#\":[\"Log\"]\x7d\x7d," ++
  "\"classes\":\x7b\"Log\":\x7b\"display\":\"\",\"is_abstract\":\"yes\"\x7d\x7d,\"note\":null\x7d"

def notedMembers : List (String × Json) := [
  ("purposes", .object [("LOG", .object [(bucketKey, .array [.string "Log"])])]),
  ("classes", .object [("Log", .object [("display", .string ""), ("is_abstract", .string "yes")])]),
  ("note", .null)]

/-- The index that it is read as. -/
def notedIndex : Index where
  classPurposes := ⟨[("LOG", .object [(bucketKey, .array [.string "Log"])])]⟩
  classes := Table.empty.insert "Log"
    { qualifiedName := "Log", isAbstract := true, displayName := some "" }

theorem consistent_noted : notedIndex.Consistent := by
  have htoken : IsToken "LOG" := ⟨by decide +kernel, by decide⟩
  have hbucket : PurposeTree.HasBucket (IsKnown notedIndex.classes.contains)
      [(bucketKey, .array [.string "Log"])] := by
    rintro _ ⟨⟩
    exact ⟨_, rfl, fun e he => ⟨"Log", List.mem_singleton.1 he, by decide⟩⟩
  refine ⟨unrecordedMethods_eq_nil_iff.1 rfl, misplacedMethods_eq_nil_iff.1 rfl, rfl, rfl, ?_, .nil⟩
  exact .node (by decide) htoken hbucket (.bucket .nil) .nil

theorem validate_ofIndex_of_validate_noted :
    validate (holding notedText) (Path.ofString "/") =
      .ok (reported (Path.ofString "/") ⟨[], [⟨.unknownSection, some "note"⟩]⟩) ∧
    ofMembers notedMembers = .ok notedIndex ∧
    validate (holding (text notedIndex)) (Path.ofString "/") = .ok {} := by
  have hread : Json.ofText? .word notedText = some (.object notedMembers) := by cbv
  have hvalid : validate (holding notedText) (Path.ofString "/") =
      .ok (reported (Path.ofString "/") ⟨[], [⟨.unknownSection, some "note"⟩]⟩) := by
    have hremarks : memberRemarks notedMembers = .ok ⟨[], [⟨.unknownSection, some "note"⟩]⟩ :=
      memberRemarks_eq_iff.2 ⟨rfl, notedIndex, ⟨rfl, rfl, rfl, rfl, rfl, rfl⟩, consistent_noted⟩
    rw [validate_holding, hread, documentRemarks, hremarks]
    rfl
  obtain ⟨ms, i, hdocument, hload, -, hagain⟩ := validate_ofIndex_of_validate hvalid rfl
  rw [documentIn_holding, hread] at hdocument
  cases hdocument
  have hnoted : ofMembers notedMembers = .ok notedIndex := by rfl
  obtain rfl : notedIndex = i := Except.ok.inj (hnoted.symm.trans hload)
  refine ⟨hvalid, hnoted, hagain _ _ (isDirectory_holding _) ?_⟩
  rw [documentIn_holding]
  cbv

end Artifact
end Exposure
