import Exposure.Proofs.Artifact.Encoding
import Exposure.Proofs.Artifact.Totality

/-!
What the validator accepts can be loaded. The validator and the loader read the sections in ways
of their own; on a document without errors they come to the same index, with every record under
its own name.
-/
namespace Exposure

namespace PurposeTree

variable {token : String → Prop} {entry : Json → Prop}

theorem memberFault?_eq_none {ms : List (String × Json)} (hs : Shaped token entry ms)
    (hb : HasBucket entry ms) (hd : Json.DistinctMembers ms) : memberFault? ms = none := by
  induction hs with
  | nil => rw [memberFault?]
  | @bucket v rest hr ih =>
      obtain ⟨es, rfl, -⟩ := hb v (by simp [Assoc.get?])
      cases hd with
      | cons hkey _ hdr =>
          rw [memberFault?, if_pos rfl, ih (hasBucket_of_notMem hkey) hdr]
          rfl
  | @node key inner rest hk _ hbi _ _ ihi ihr =>
      cases hd with
      | cons _ hdi hdr =>
          rw [memberFault?, if_neg hk, nodeFault?, ihi hbi (hdi inner rfl),
            ihr (hb.tail hk) hdr]
          rfl

theorem Regular.ofJson_eq {t : PurposeTree} (h : Regular token entry t) :
    ofJson (.object t.members) = .ok t := by
  simp only [ofJson, memberFault?_eq_none h.shaped h.hasBucket h.distinct,
    normalMembers_eq h.shaped h.hasBucket h.distinct]

end PurposeTree

namespace Schema.Checked

variable {α β : Type}

/-- Whatever the check reads has the property. -/
def Gives (P : α → Prop) (x : Checked α) : Prop := ∀ a, x = .valid a → P a

theorem Gives.map {P : β → Prop} {f : α → β} (h : ∀ a, P (f a)) (x : Checked α) :
    Gives P (f <$> x) := by
  intro b hb
  cases x with
  | valid a =>
      cases hb
      exact h a
  | invalid is => cases hb

theorem Gives.seq_of {Q : α → Prop} {P : β → Prop} {f : Checked (α → β)} {x : Checked α}
    (h : Gives (fun g => ∀ a, Q a → P (g a)) f) (hx : Gives Q x) : Gives P (f <*> x) := by
  intro b hb
  cases f with
  | valid g =>
      cases x with
      | valid a =>
          cases hb
          exact h g rfl a (hx a rfl)
      | invalid is => cases hb
  | invalid is => cases x <;> cases hb

theorem Gives.seq {P : β → Prop} {f : Checked (α → β)} (h : Gives (fun g => ∀ a, P (g a)) f)
    (x : Checked α) : Gives P (f <*> x) :=
  Gives.seq_of (Q := fun _ => True) (fun g hg a _ => h g hg a) fun _ _ => trivial

theorem Gives.toExcept {P : α → Prop} {x : Checked α} (h : Gives P x) {y : Checked Unit}
    {model : String} {a : α} (ha : (both (fun r _ => r) x y).toExcept model = .ok a) : P a := by
  cases x with
  | valid b =>
      cases y with
      | valid u =>
          cases ha
          exact h b rfl
      | invalid js => cases ha
  | invalid is => cases y <;> cases ha

end Schema.Checked

open Schema.Checked in
theorem ClassRecord.qualifiedName_ofMembers {name : String} {ms : List (String × Json)}
    {r : ClassRecord} (h : ofMembers name ms = .ok r) : r.qualifiedName = name := by
  refine Gives.toExcept (P := fun r => r.qualifiedName = name) ?_ h
  iterate 5 refine .seq ?_ _
  exact .map (by intros; rfl) _

open Schema.Checked in
theorem MethodRecord.qualifiedName_ofMembers {name : String} {ms : List (String × Json)}
    {r : MethodRecord} (h : ofMembers name ms = .ok r) : r.qualifiedName = name := by
  refine Gives.toExcept (P := fun r => r.qualifiedName = name) ?_ h
  iterate 11 refine .seq ?_ _
  exact .map (by intros; rfl) _

namespace Artifact

/-- A section without complaint is read alike by the validator and the loader. -/
theorem content_eq {key : String} {ms xs : List (String × Json)}
    (h : sectionMembers key ms = (xs, [])) : content key ms = .object xs := by
  unfold sectionMembers at h
  unfold content
  cases hv : Assoc.get? key ms with
  | none =>
      rw [hv] at h
      cases h
      rfl
  | some v =>
      rw [hv] at h
      cases v with
      | object inner =>
          cases h
          cases xs <;> rfl
      | null | bool _ | int _ | float _ | string _ | array _ => cases h

theorem distinct_sectionOf {ms : List (String × Json)} (hd : Json.DistinctMembers ms)
    (key : String) : Json.DistinctMembers (sectionOf key (.object ms)) := by
  rw [sectionOf, Json.get?]
  cases hv : Assoc.get? key ms with
  | none => exact .nil
  | some v =>
      cases v with
      | object inner => exact hd.get? hv inner rfl
      | null | bool _ | int _ | float _ | string _ | array _ => exact .nil

/-- The record of a class in a document. -/
def classIn? (v : Json) (name : String) : Option ClassRecord :=
  recordIn? ClassRecord.ofMembers (sectionOf classesKey v) name

/-- The record of a method in a document. -/
def methodIn? (v : Json) (name : String) : Option MethodRecord :=
  recordIn? MethodRecord.ofMembers (sectionOf methodsKey v) name

namespace Holds

variable {ms : List (String × Json)} {i : Index}

theorem classPurposes (h : Holds ms i) :
    i.classPurposes.members = sectionOf classPurposesKey (.object ms) := by
  rw [← sectionMembers_fst, h.classTree]

theorem methodPurposes (h : Holds ms i) :
    i.methodPurposes.members = sectionOf methodPurposesKey (.object ms) := by
  rw [← sectionMembers_fst, h.methodTree]

theorem readableClasses (h : Holds ms i) :
    readableRecords ClassRecord.ofMembers classesKey (sectionOf classesKey (.object ms)) =
      (i.classes, []) := by
  rw [← sectionMembers_fst, h.classes]

theorem readableMethods (h : Holds ms i) :
    readableRecords MethodRecord.ofMembers methodsKey (sectionOf methodsKey (.object ms)) =
      (i.methods, []) := by
  rw [← sectionMembers_fst, h.methods]

theorem get?_classes (h : Holds ms i) (hd : Json.DistinctMembers ms) (name : String) :
    i.classes.get? name = classIn? (.object ms) name :=
  get?_of_readableRecords (distinct_sectionOf hd classesKey).nodup_keys h.readableClasses name

theorem get?_methods (h : Holds ms i) (hd : Json.DistinctMembers ms) (name : String) :
    i.methods.get? name = methodIn? (.object ms) name :=
  get?_of_readableRecords (distinct_sectionOf hd methodsKey).nodup_keys h.readableMethods name

theorem contains_classes (h : Holds ms i) (hd : Json.DistinctMembers ms) :
    i.classes.contains = fun name => (classIn? (.object ms) name).isSome :=
  funext fun name => congrArg Option.isSome (h.get?_classes hd name)

theorem contains_methods (h : Holds ms i) (hd : Json.DistinctMembers ms) :
    i.methods.contains = fun name => (methodIn? (.object ms) name).isSome :=
  funext fun name => congrArg Option.isSome (h.get?_methods hd name)

theorem regular_classPurposes (h : Holds ms i) (hd : Json.DistinctMembers ms)
    (hi : i.Consistent) :
    PurposeTree.Regular IsToken (IsKnown i.classes.contains) i.classPurposes :=
  ⟨hi.classRoot, hi.classTree, h.classPurposes ▸ distinct_sectionOf hd _⟩

theorem regular_methodPurposes (h : Holds ms i) (hd : Json.DistinctMembers ms)
    (hi : i.Consistent) :
    PurposeTree.Regular IsToken (IsKnown i.methods.contains) i.methodPurposes :=
  ⟨hi.methodRoot, hi.methodTree, h.methodPurposes ▸ distinct_sectionOf hd _⟩

end Holds

variable {α : Type} {read : String → List (String × Json) → Except Schema.Report α}
  {sectionKey : String}

theorem readRecords_eq {xs : List (String × Json)} {t : Table α}
    (h : readableRecords read sectionKey xs = (t, [])) : readRecords read xs = .ok t := by
  induction xs using List.reverseRecOn generalizing t with
  | nil =>
      cases h
      rfl
  | append_singleton xs m ih =>
      obtain ⟨t', ms, r, hxs, hm, hr, rfl⟩ := readableRecords_concat_iff.1 h
      -- The loader takes an empty member for an empty object, which changes no object.
      have hobject : (if m.2.truthy then m.2 else .object []) = .object ms := by
        rw [hm]
        cases ms <;> rfl
      have hfold := ih hxs
      unfold readRecords at hfold ⊢
      rw [List.foldlM_append, hfold]
      simp only [List.foldlM_cons, hobject, bind, Except.bind, hr]
      rfl

theorem toIndex_eq {ms : List (String × Json)} {i : Index} (hd : Json.DistinctMembers ms)
    (h : Holds ms i) (hi : i.Consistent) : toIndex ms = .ok i := by
  have hclasses : content classesKey ms = .object (sectionMembers classesKey ms).1 :=
    content_eq (Prod.ext rfl h.classSection)
  have hmethods : content methodsKey ms = .object (sectionMembers methodsKey ms).1 :=
    content_eq (Prod.ext rfl h.methodSection)
  simp only [toIndex, content_eq h.classTree, content_eq h.methodTree, hclasses, hmethods,
    readTree, (h.regular_classPurposes hd hi).ofJson_eq,
    (h.regular_methodPurposes hd hi).ofJson_eq, readSection, readRecords_eq h.classes,
    readRecords_eq h.methods]
  rfl

/-- Every record is filed under its own name. -/
structure Filed (i : Index) : Prop where
  classes : ∀ name r, i.classes.get? name = some r → r.qualifiedName = name
  methods : ∀ name r, i.methods.get? name = some r → r.qualifiedName = name

theorem filed_of_holds {ms : List (String × Json)} {i : Index} (h : Holds ms i)
    (hd : Json.DistinctMembers ms) : Filed i where
  classes := fun name r hr => by
    rw [h.get?_classes hd] at hr
    obtain ⟨members, -, hread⟩ := recordIn?_eq_some_iff.1 hr
    exact ClassRecord.qualifiedName_ofMembers hread
  methods := fun name r hr => by
    rw [h.get?_methods hd] at hr
    obtain ⟨members, -, hread⟩ := recordIn?_eq_some_iff.1 hr
    exact MethodRecord.qualifiedName_ofMembers hread

theorem isFile_of_bytes? {fs : FileSystem} {p : Path} {bytes : ByteArray}
    (h : fs.bytes? p = some bytes) : fs.isFile p = true := by
  unfold FileSystem.bytes? at h
  unfold FileSystem.isFile
  split at h
  · rename_i hentry
    rw [hentry]
    rfl
  · cases h

theorem distinct_documentIn {fs : FileSystem} {directory : Path} {v : Json}
    (hv : documentIn fs directory = some v) : v.Distinct := by
  obtain ⟨bytes, -, hread⟩ := Option.bind_eq_some_iff.1 hv
  exact Json.distinct_ofBytes? hread

/-- The index that a document holds is loaded from the directory with the document. -/
theorem load_of_holds {fs : FileSystem} {text : String} {ms : List (String × Json)} {i : Index}
    (hdirectory : fs.isDirectory (Path.ofString text) = true)
    (hdocument : documentIn fs (Path.ofString text) = some (.object ms)) (h : Holds ms i)
    (hi : i.Consistent) : load fs (.path text) = .ok i := by
  obtain ⟨bytes, hbytes, hread⟩ := Option.bind_eq_some_iff.1 hdocument
  have hd : Json.DistinctMembers ms := distinct_documentIn hdocument ms rfl
  have hlocate : locate fs (Path.ofString text) = .ok ((Path.ofString text).child fileName) := by
    simp only [locate, hdirectory, if_true, isFile_of_bytes? hbytes]
  simp only [load, hlocate, bind, Except.bind, hbytes, Option.getD_some, ofBytes, hread, ofMembers,
    toIndex_eq hd h hi]

/-- An artifact that the validator accepts loads, as an index that is consistent. -/
theorem load_of_validate {fs : FileSystem} {text : String} {result : ValidationResult}
    (h : validate fs (Path.ofString text) = .ok result) (hok : result.ok = true) :
    ∃ i, load fs (.path text) = .ok i ∧ i.Consistent ∧ Filed i := by
  obtain ⟨hdirectory, haccepted⟩ := validate_eq_ok_iff.1 ⟨result, h, hok⟩
  obtain ⟨ms, i, hdocument, hold, hi⟩ := documentRemarks_ok_iff.1 haccepted
  have hd : Json.DistinctMembers ms := distinct_documentIn hdocument ms rfl
  exact ⟨i, load_of_holds hdirectory hdocument hold hi, hi, filed_of_holds hold hd⟩

end Artifact
end Exposure
