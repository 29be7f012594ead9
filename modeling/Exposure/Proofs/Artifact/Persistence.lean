import Exposure.Proofs.Index.Building

/-!
Which indexes survive being written and read. Reading gives back every index that calls can build,
except that an empty text comes back as unset and a node under the reserved key of a root as a
bucket; and the index that is read has the same document as the one that was written.
-/
namespace Exposure

open Schema

theorem jsonOfOption_filter (o : Option String) :
    (jsonOfOption (o.filter (· ≠ ""))).truthy = (jsonOfOption o).truthy ∧
      ((jsonOfOption o).truthy = true → jsonOfOption (o.filter (· ≠ "")) = jsonOfOption o) := by
  cases o with
  | none => simp
  | some s => by_cases hs : s = "" <;> simp [jsonOfOption, Json.truthy, hs, Option.filter]

theorem memberIf_filter (key : String) (o : Option String) :
    memberIf key (jsonOfOption (o.filter (· ≠ ""))) = memberIf key (jsonOfOption o) := by
  obtain ⟨htruthy, heq⟩ := jsonOfOption_filter o
  cases ho : (jsonOfOption o).truthy with
  | false =>
      rw [memberIf, memberIf, htruthy, ho]
      rfl
  | true => rw [heq ho]

theorem filter_ne_empty_eq_self {o : Option String} :
    o.filter (· ≠ "") = o ↔ o ≠ some "" := by
  cases o with
  | none => simp
  | some s => by_cases hs : s = "" <;> simp [Option.filter, hs]

namespace ClassRecord

/-- No text of the record is set and empty. -/
def TextsKept (r : ClassRecord) : Prop := r.displayName ≠ some "" ∧ r.moduleName ≠ some ""

theorem toDocument_readBack (name : String) (r : ClassRecord) :
    (r.readBack name).toDocument = r.toDocument := by
  simp only [toDocument, readBack, memberIf_filter]

theorem readBack_eq_self {r : ClassRecord} (h : r.TextsKept) :
    r.readBack r.qualifiedName = r := by
  rw [readBack, filter_ne_empty_eq_self.2 h.1, filter_ne_empty_eq_self.2 h.2]

theorem same_self {r : ClassRecord} (h : (Assoc.keys r.importAliases).Nodup) :
    r.same r = true := by
  simp only [same, BEq.rfl, Bool.true_and, List.all_eq_true, beq_iff_eq]
  exact fun p hp => Assoc.get?_of_mem h hp

theorem same_readBack_iff {r : ClassRecord} (h : (Assoc.keys r.importAliases).Nodup) :
    r.same (r.readBack r.qualifiedName) = true ↔ r.TextsKept := by
  constructor
  · intro hsame
    simp only [same, readBack, Bool.and_eq_true, beq_iff_eq, mk.injEq] at hsame
    obtain ⟨⟨⟨-, -, -, hdisplay, hmodule, -⟩, -⟩, -⟩ := hsame
    exact ⟨filter_ne_empty_eq_self.1 hdisplay.symm, filter_ne_empty_eq_self.1 hmodule.symm⟩
  · intro hkept
    rw [readBack_eq_self hkept, same_self h]

end ClassRecord

namespace MethodRecord

/-- No text of the record is set and empty. -/
def TextsKept (r : MethodRecord) : Prop := r.displayName ≠ some "" ∧ r.returnType ≠ some ""

theorem toDocument_readBack (name : String) (r : MethodRecord) :
    (r.readBack name).toDocument = r.toDocument := by
  simp only [toDocument, readBack, memberIf_filter]

theorem readBack_eq_self {r : MethodRecord} (h : r.TextsKept) :
    r.readBack r.qualifiedName = r := by
  rw [readBack, filter_ne_empty_eq_self.2 h.1, filter_ne_empty_eq_self.2 h.2]

theorem eq_readBack_iff {r : MethodRecord} :
    (r == r.readBack r.qualifiedName) = true ↔ r.TextsKept := by
  rw [beq_iff_eq]
  constructor
  · intro heq
    exact ⟨filter_ne_empty_eq_self.1 (congrArg displayName heq).symm,
      filter_ne_empty_eq_self.1 (congrArg returnType heq).symm⟩
  · intro hkept
    rw [readBack_eq_self hkept]

end MethodRecord

namespace Table

variable {α : Type}

theorem mapValues_eq_self {t : Table α} {f : String → α → α}
    (h : ∀ name r, t.get? name = some r → f name r = r) : t.mapValues f = t := by
  refine ext ((List.map_congr_left fun e he => ?_).trans t.entries.map_id)
  rw [h e.1 e.2 (mem_entries_iff.1 he), id]

/-- A table equals a transformed one just if every value equals what it is transformed to. -/
theorem equivBy_mapValues_iff {same : α → α → Bool} {t : Table α} {f : String → α → α} :
    t.equivBy same (t.mapValues f) = true ↔
      ∀ name r, t.get? name = some r → same r (f name r) = true := by
  have hsize : (t.mapValues f).size = t.size := List.length_map _
  simp only [equivBy, hsize, BEq.rfl, Bool.true_and, List.all_eq_true, mem_entries_iff,
    get?_mapValues, Prod.forall]
  refine forall₃_congr fun name r hr => ?_
  rw [hr, Option.map_some]

end Table

namespace Index

/-- No record of the index has a text that is set and empty. -/
def TextsKept (i : Index) : Prop :=
  (∀ name r, i.classes.get? name = some r → r.TextsKept) ∧
    ∀ name r, i.methods.get? name = some r → r.TextsKept

/-- The index with both trees in their normal form. -/
def normalTrees (i : Index) : Index :=
  { i with
    classPurposes := i.classPurposes.normal
    methodPurposes := i.methodPurposes.normal }

theorem restored_eq_self {i : Index} (h : i.Built) (hroots : i.RootsFree) (htexts : i.TextsKept) :
    i.normalTrees.readBack = i := by
  have hclasses : i.classes.mapValues ClassRecord.readBack = i.classes :=
    Table.mapValues_eq_self fun name r hr => by
      rw [← h.filed.classes name r hr, ClassRecord.readBack_eq_self (htexts.1 name r hr)]
  have hmethods : i.methods.mapValues MethodRecord.readBack = i.methods :=
    Table.mapValues_eq_self fun name r hr => by
      rw [← h.filed.methods name r hr, MethodRecord.readBack_eq_self (htexts.2 name r hr)]
  simp only [normalTrees, readBack, PurposeTree.normal_planted h.classTree hroots.1,
    PurposeTree.normal_planted h.methodTree hroots.2, hclasses, hmethods]

theorem same_restored_iff {i : Index} (h : i.Built) :
    i.same i.normalTrees.readBack = true ↔ i.TextsKept ∧ i.RootsFree := by
  have hclasses : i.classes.equivBy ClassRecord.same (i.classes.mapValues ClassRecord.readBack) =
      true ↔ ∀ name r, i.classes.get? name = some r → r.TextsKept := by
    rw [Table.equivBy_mapValues_iff]
    refine forall₃_congr fun name r hr => ?_
    rw [← h.filed.classes name r hr, ClassRecord.same_readBack_iff (h.aliases name r hr)]
  have hmethods : i.methods.equivBy (fun r s => r == s)
      (i.methods.mapValues MethodRecord.readBack) =
      true ↔ ∀ name r, i.methods.get? name = some r → r.TextsKept := by
    rw [Table.equivBy_mapValues_iff]
    refine forall₃_congr fun name r hr => ?_
    rw [← h.filed.methods name r hr, MethodRecord.eq_readBack_iff]
  simp only [same, normalTrees, readBack, Bool.and_eq_true, hclasses, hmethods,
    PurposeTree.same_normal_planted h.classTree, PurposeTree.same_normal_planted h.methodTree,
    TextsKept, RootsFree]
  tauto

end Index

namespace Artifact

/-- The document of an index tells its trees only up to their normal form. -/
theorem ofIndex_eq_sectionsOf (i : Index) : ofIndex i = .object (sectionsOf i.normalTrees) := by
  simp only [ofIndex, PurposeTree.toJson, ClassRecord.toDocument_eq, MethodRecord.toDocument_eq,
    sectionsOf, Index.normalTrees, PurposeTree.normal]

theorem ofIndex_restored (i : Index) : ofIndex i.normalTrees.readBack = ofIndex i := by
  simp only [ofIndex, Index.normalTrees, Index.readBack, PurposeTree.toJson_normal,
    Table.mapValues, List.map_map, Function.comp_def, ClassRecord.toDocument_readBack,
    MethodRecord.toDocument_readBack]

/-- The document of an index whose trees have no fault is read as the index with normal trees and
records as they read back. -/
theorem toIndex_sectionsOf {i : Index}
    (hclass : PurposeTree.memberFault? i.classPurposes.members = none)
    (hmethod : PurposeTree.memberFault? i.methodPurposes.members = none) :
    toIndex (sectionsOf i.normalTrees) = .ok i.normalTrees.readBack := by
  have hold := holds_sectionsOf i.normalTrees
  have hclasses := readRecords_eq hold.classes
  have hmethods := readRecords_eq hold.methods
  have hclassTree : PurposeTree.ofJson (.object i.classPurposes.normal.members) =
      .ok i.classPurposes.normal := PurposeTree.ofJson_toJson hclass
  have hmethodTree : PurposeTree.ofJson (.object i.methodPurposes.normal.members) =
      .ok i.methodPurposes.normal := PurposeTree.ofJson_toJson hmethod
  simp only [toIndex, content_eq hold.classTree, content_eq hold.methodTree,
    content_eq (Prod.ext rfl hold.classSection), content_eq (Prod.ext rfl hold.methodSection),
    readTree, readSection, hclasses, hmethods]
  simp only [Index.readBack, Index.normalTrees, hclassTree, hmethodTree]
  rfl

/-- Every index that calls build can be written and read. What is read equals the index just if no
record has an empty text and no tag that a registration came to begins with the reserved key; and it
has the same document, in the same order, and so the same text. -/
theorem ofMembers_ofIndex_afterCalls (calls : List Index.Call) (h : ∀ c ∈ calls, c.Valid) :
    PurposeTree.memberFault? (Index.afterCalls calls {}).classPurposes.members = none ∧
    PurposeTree.memberFault? (Index.afterCalls calls {}).methodPurposes.members = none ∧
    ∃ ms restored, ofIndex (Index.afterCalls calls {}) = .object ms ∧
      ofMembers ms = .ok restored ∧
      ((Index.afterCalls calls {}).same restored = true ↔
        (Index.afterCalls calls {}).TextsKept ∧
          ∀ tag ∈ Index.attemptedTags calls {}, ¬Purpose.Reserved tag) ∧
      ((Index.afterCalls calls {}).same restored = true →
        restored = Index.afterCalls calls {}) ∧
      ofIndex restored = ofIndex (Index.afterCalls calls {}) ∧
      text restored = text (Index.afterCalls calls {}) := by
  obtain ⟨hbuilt, hfree⟩ := Index.built_afterCalls h Index.built_empty
  have hroots : (Index.afterCalls calls {}).RootsFree ↔
      ∀ tag ∈ Index.attemptedTags calls {}, ¬Purpose.Reserved tag :=
    hfree.trans (and_iff_right ⟨rfl, rfl⟩)
  generalize Index.afterCalls calls {} = i at hbuilt hroots
  have hclass := PurposeTree.memberFault?_planted hbuilt.classTree
  have hmethod := PurposeTree.memberFault?_planted hbuilt.methodTree
  have hsame := Index.same_restored_iff hbuilt
  refine ⟨hclass, hmethod, sectionsOf i.normalTrees, i.normalTrees.readBack,
    ofIndex_eq_sectionsOf i, ?_, ?_, ?_, ofIndex_restored i, ?_⟩
  · rw [ofMembers, toIndex_sectionsOf hclass hmethod]
  · rw [hsame, hroots]
  · intro heq
    obtain ⟨htexts, hfree⟩ := hsame.1 heq
    exact Index.restored_eq_self hbuilt hfree htexts
  · rw [text, ofIndex_restored, text]

/-- A class under the given tag and others, and a method whose first tag is blocked, so that its
second one is not come to. -/
def loggingCalls (tag : String) : List Index.Call := [
  .addClass { qualifiedName := "app.Log", importAliases := [("os", "os"), ("p", "os.path")] }
    [" log.write ", " . ", tag],
  .addMethod { qualifiedName := "app.Log::write", returnType := some "int" } ["log.#.x", "#"]]

theorem ofMembers_ofIndex_afterCalls_logging :
    (∀ c ∈ loggingCalls "log", c.Valid) ∧ (∀ c ∈ loggingCalls ".#.log", c.Valid) ∧
    Index.attemptedTags (loggingCalls "log") {} = [" log.write ", " . ", "log", "log.#.x"] ∧
    (∃ ms, ofIndex (Index.afterCalls (loggingCalls "log") {}) = .object ms ∧
      ofMembers ms = .ok (Index.afterCalls (loggingCalls "log") {})) ∧
    ∃ ms restored, ofIndex (Index.afterCalls (loggingCalls ".#.log") {}) = .object ms ∧
      ofMembers ms = .ok restored ∧
      (Index.afterCalls (loggingCalls ".#.log") {}).same restored = false ∧
      text restored = text (Index.afterCalls (loggingCalls ".#.log") {}) := by
  have hvalid (tag : String) : ∀ c ∈ loggingCalls tag, c.Valid := by
    simp [loggingCalls, Index.Call.Valid, Assoc.keys]
  have htags : Index.attemptedTags (loggingCalls "log") {} =
      [" log.write ", " . ", "log", "log.#.x"] := by decide +kernel
  have hplain : ∀ tag ∈ Index.attemptedTags (loggingCalls "log") {}, ¬Purpose.Reserved tag := by
    rw [htags]
    decide +kernel
  have hreserved : ∃ tag ∈ Index.attemptedTags (loggingCalls ".#.log") {},
      Purpose.Reserved tag := by decide +kernel
  have hkept : (Index.afterCalls (loggingCalls "log") {}).TextsKept := by
    have hclasses : (Index.afterCalls (loggingCalls "log") {}).classes.entries = [("app.Log",
        { qualifiedName := "app.Log", importAliases := [("os", "os"), ("p", "os.path")] })] := by
      decide +kernel
    have hmethods : (Index.afterCalls (loggingCalls "log") {}).methods.entries = [] := by
      decide +kernel
    refine ⟨fun name r hr => ?_, fun name r hr => ?_⟩
    · rw [Table.get?, hclasses] at hr
      obtain ⟨-, rfl⟩ := Prod.mk.inj (List.mem_singleton.1 (Assoc.mem_of_get? hr))
      exact ⟨nofun, nofun⟩
    · rw [Table.get?, hmethods] at hr
      cases hr
  obtain ⟨-, -, ms, restored, hms, hread, hsame, heq, -, -⟩ :=
    ofMembers_ofIndex_afterCalls (loggingCalls "log") (hvalid "log")
  obtain ⟨-, -, ms', restored', hms', hread', hsame', -, -, htext'⟩ :=
    ofMembers_ofIndex_afterCalls (loggingCalls ".#.log") (hvalid ".#.log")
  refine ⟨hvalid _, hvalid _, htags, ⟨ms, hms, ?_⟩, ms', restored', hms', hread', ?_, htext'⟩
  · rw [hread, heq (hsame.2 ⟨hkept, hplain⟩)]
  · rw [Bool.eq_false_iff]
    intro htrue
    obtain ⟨tag, hmem, htag⟩ := hreserved
    exact (hsame'.1 htrue).2 tag hmem htag

end Artifact
end Exposure
