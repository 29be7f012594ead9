import Exposure.Proofs.Artifact.Acceptance
import Exposure.Proofs.Purpose.Registration
import Exposure.Proofs.Record.RoundTrip
import Mathlib.Data.List.Induction

/-!
What the document of an index holds. Trees without repeated keys stand in it as they are, and the
records read back one by one, so that the document holds the index but for the texts that reading
back cannot tell from unset ones.
-/
namespace Exposure

/-- The index with every record as it reads back under its name. -/
def Index.readBack (i : Index) : Index :=
  { i with
    classes := i.classes.mapValues ClassRecord.readBack
    methods := i.methods.mapValues MethodRecord.readBack }

/-- What is listed, owned or named is so by keys, which reading back leaves alone. -/
theorem Index.Consistent.readBack {i : Index} (h : i.Consistent)
    (hfiled : ∀ name r, i.methods.get? name = some r → r.qualifiedName = name) :
    i.readBack.Consistent := by
  have hclasses : i.readBack.classes.contains = i.classes.contains := by
    funext name
    exact Table.contains_mapValues ClassRecord.readBack i.classes name
  have hmethods : i.readBack.methods.contains = i.methods.contains := by
    funext name
    exact Table.contains_mapValues MethodRecord.readBack i.methods name
  refine ⟨?_, ?_, h.classRoot, h.methodRoot, ?_, ?_⟩
  · intro name r hr m hm
    obtain ⟨s, hs, rfl⟩ := Option.map_eq_some_iff.1
      ((Table.get?_mapValues ClassRecord.readBack i.classes name).symm.trans hr)
    rw [hmethods]
    exact h.listed name s hs m hm
  · intro name r hr
    obtain ⟨s, hs, rfl⟩ := Option.map_eq_some_iff.1
      ((Table.get?_mapValues MethodRecord.readBack i.methods name).symm.trans hr)
    obtain rfl := hfiled name s hs
    rw [hclasses]
    exact h.owned s.qualifiedName s hs
  · rw [hclasses]
    exact h.classTree
  · rw [hmethods]
    exact h.methodTree

namespace PurposeTree

variable {token : String → Prop} {entry : Json → Prop}

theorem normalMembers_eq {ms : List (String × Json)} (hs : Shaped token entry ms)
    (hb : HasBucket entry ms) (hd : Json.DistinctMembers ms) : normalMembers ms = ms := by
  induction hs with
  | nil => rw [normalMembers]
  | @bucket v rest hr ih =>
      obtain ⟨es, rfl, -⟩ := hb v (by simp [Assoc.get?])
      cases hd with
      | cons hkey _ hdr =>
          rw [normalMembers, if_pos rfl, ih (hasBucket_of_notMem hkey) hdr]
          rfl
  | @node key inner rest hk _ hbi _ _ ihi ihr =>
      cases hd with
      | cons _ hdi hdr =>
          rw [normalMembers, if_neg hk, normalNode, ihi hbi (hdi inner rfl),
            ihr (hb.tail hk) hdr]

theorem Regular.toJson_eq {t : PurposeTree} (h : Regular token entry t) :
    t.toJson = .object t.members := by
  rw [toJson, normalMembers_eq h.shaped h.hasBucket h.distinct]

end PurposeTree

namespace Artifact

theorem readableRecords_members {α : Type}
    {read : String → List (String × Json) → Except Schema.Report α}
    {members : α → List (String × Json)} {back : String → α → α}
    (hread : ∀ name r, read name (members r) = .ok (back name r)) (sectionKey : String)
    (t : Table α) :
    readableRecords read sectionKey (t.entries.map fun e => (e.1, .object (members e.2))) =
      (t.mapValues back, []) := by
  have hall (es : List (String × α)) (hn : (Assoc.keys es).Nodup) : ∃ t',
      readableRecords read sectionKey (es.map fun e => (e.1, .object (members e.2))) =
        (t', []) ∧ t'.entries = es.map fun e => (e.1, back e.1 e.2) := by
    induction es using List.reverseRecOn with
    | nil => exact ⟨Table.empty, rfl, rfl⟩
    | append_singleton es e ih =>
        rw [Assoc.keys, List.map_append] at hn
        obtain ⟨hes, -, hnew⟩ := List.nodup_append.1 hn
        obtain ⟨t', hread', hentries⟩ := ih hes
        refine ⟨t'.insert e.1 (back e.1 e.2), ?_, ?_⟩
        · rw [List.map_append]
          exact readableRecords_concat_iff.2 ⟨t', _, _, hread', rfl, hread e.1 e.2, rfl⟩
        · have hkeys : e.1 ∉ t'.keys := by
            rw [Table.keys, hentries, Assoc.keys, List.map_map]
            exact fun hmem => hnew _ hmem _ (by simp) rfl
          rw [Table.entries_insert_of_notMem hkeys, hentries, List.map_append]
          rfl
  obtain ⟨t', hread', hentries⟩ := hall t.entries t.keys_nodup
  rw [hread', Table.ext (show t'.entries = (t.mapValues back).entries from hentries)]

/-- The members of the document of an index with these members in its trees. -/
def sectionsOf (i : Index) : List (String × Json) := [
  (classPurposesKey, .object i.classPurposes.members),
  (methodPurposesKey, .object i.methodPurposes.members),
  (classesKey, .object (i.classes.entries.map fun e =>
    (e.1, .object (e.2.fieldMembers.filter fun m => m.2.truthy)))),
  (methodsKey, .object (i.methods.entries.map fun e =>
    (e.1, .object (e.2.fieldMembers.filter fun m => m.2.truthy))))]

theorem holds_sectionsOf (i : Index) : Holds (sectionsOf i) i.readBack where
  classTree := rfl
  methodTree := rfl
  classSection := rfl
  methodSection := rfl
  classes := readableRecords_members ClassRecord.ofMembers_filter classesKey i.classes
  methods := readableRecords_members MethodRecord.ofMembers_filter methodsKey i.methods

theorem ofIndex_eq {token token' : String → Prop} {entry entry' : Json → Prop} {i : Index}
    (hc : PurposeTree.Regular token entry i.classPurposes)
    (hm : PurposeTree.Regular token' entry' i.methodPurposes) :
    ofIndex i = .object (sectionsOf i) := by
  simp only [ofIndex, hc.toJson_eq, hm.toJson_eq, ClassRecord.toDocument_eq,
    MethodRecord.toDocument_eq, sectionsOf]

/-- An index that is consistent as it reads back has a document without errors or warnings. -/
theorem documentRemarks_ofIndex {token token' : String → Prop} {entry entry' : Json → Prop}
    {i : Index} (hc : PurposeTree.Regular token entry i.classPurposes)
    (hm : PurposeTree.Regular token' entry' i.methodPurposes) (hi : i.readBack.Consistent) :
    documentRemarks (some (ofIndex i)) = .ok {} := by
  rw [ofIndex_eq hc hm, documentRemarks]
  exact memberRemarks_eq_iff.2 ⟨by simp [unknownSections, sectionsOf, sectionKeys], i.readBack,
    holds_sectionsOf i, hi⟩

end Artifact
end Exposure
