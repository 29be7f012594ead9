import Exposure.Artifact.Document
import Exposure.Proofs.Attempt
import Exposure.Proofs.Purpose.Normal
import Exposure.Proofs.Record.Acceptance

/-!
Which documents the loader refuses. Reading stops at a tree or a table of the wrong shape and at a
record that is refused; the reasons are listed apart from the reading, and any of them makes the
document malformed.
-/
namespace Exposure

namespace PurposeTree

/-- A bucket can be read from the value. -/
def HasItems : Json → Prop
  | .array _ => True
  | .object _ => True
  | .string _ => True
  | _ => False

/-- An object in which every bucket has items and every other value is a tree. -/
inductive IsTree : Json → Prop
  | object (ms : List (String × Json)) (bucket : ∀ m ∈ ms, m.1 = bucketKey → HasItems m.2)
      (child : ∀ m ∈ ms, m.1 ≠ bucketKey → IsTree m.2) : IsTree (.object ms)

theorem isTree_object_iff {ms : List (String × Json)} :
    IsTree (.object ms) ↔
      (∀ m ∈ ms, m.1 = bucketKey → HasItems m.2) ∧ ∀ m ∈ ms, m.1 ≠ bucketKey → IsTree m.2 := by
  constructor
  · intro h
    cases h with
    | object _ bucket child => exact ⟨bucket, child⟩
  · rintro ⟨bucket, child⟩
    exact .object ms bucket child

theorem isTree_cons_iff {key : String} {v : Json} {rest : List (String × Json)} :
    IsTree (.object ((key, v) :: rest)) ↔
      (if key = bucketKey then HasItems v else IsTree v) ∧ IsTree (.object rest) := by
  simp only [isTree_object_iff, List.forall_mem_cons]
  split_ifs with h <;> simp only [h] <;> tauto

theorem not_isTree {v : Json} (h : v.members? = none) : ¬IsTree v := by
  rintro ⟨ms, -, -⟩
  cases h

theorem bucketItems_eq_ok_iff {v : Json} : (∃ items, bucketItems v = .ok items) ↔ HasItems v := by
  cases v <;> simp [bucketItems, HasItems]

theorem nodeFault?_of_members? {v : Json} (h : v.members? = none) :
    nodeFault? v = some .notMapping := by
  cases v with
  | object ms => cases h
  | null | bool _ | int _ | float _ | string _ | array _ => rfl

theorem memberFault?_eq_none_iff_isTree {ms : List (String × Json)} :
    memberFault? ms = none ↔ IsTree (.object ms) := by
  induction ms using Json.members_induction with
  | nil => simp [memberFault?, isTree_object_iff]
  | object key inner rest ihi ihr =>
      rw [isTree_cons_iff, ← ihi, ← ihr, memberFault?_eq_none_iff, List.forall_mem_cons,
        ← memberFault?_eq_none_iff, bucketItems_eq_ok_iff, nodeFault?]
  | other key value rest hv ihr =>
      rw [isTree_cons_iff, ← ihr, memberFault?_eq_none_iff, List.forall_mem_cons,
        ← memberFault?_eq_none_iff, bucketItems_eq_ok_iff, nodeFault?_of_members? hv]
      simp [not_isTree hv]

/-- The values that are read as a tree. -/
theorem ofJson_eq_ok_iff {v : Json} : (∃ t, ofJson v = .ok t) ↔ IsTree v := by
  cases v with
  | object ms =>
      rw [← memberFault?_eq_none_iff_isTree, ofJson]
      cases memberFault? ms <;> simp
  | null | bool _ | int _ | float _ | string _ | array _ =>
      exact iff_of_false (by simp [ofJson]) (not_isTree rfl)

end PurposeTree

namespace Schema

theorem fits_nil (fields : List Field) : Fits fields [] where
  taken := fun f _ v hv => by
    have hnone : valueOf? f.keys ([] : List (String × Json)) = none := by
      simp [valueOf?, List.findSome?_eq_none_iff]
    cases hnone.symm.trans hv
  known := by simp [Assoc.keys]

end Schema

namespace Artifact

open PurposeTree Schema

def treeKeys : List String := [classPurposesKey, methodPurposesKey]

/-- The tables of a document with the fields of their records. -/
def tables : List (String × List Field) :=
  [(classesKey, ClassRecord.fields), (methodsKey, MethodRecord.fields)]

/-- What the members of a document are refused for. -/
inductive Rejected (ms : List (String × Json)) : Prop
  /-- What stands for a tree is none. -/
  | tree {key : String} {v : Json} (hkey : key ∈ treeKeys) (hget : Assoc.get? key ms = some v)
      (htruthy : v.truthy = true) (hv : ¬IsTree v)
  /-- What stands for a table is no object. -/
  | table {key : String} {fields : List Field} {v : Json} (hkey : (key, fields) ∈ tables)
      (hget : Assoc.get? key ms = some v) (htruthy : v.truthy = true) (hv : v.members? = none)
  /-- What stands for a record is no object. -/
  | noObject {key name : String} {fields : List Field} {records : List (String × Json)} {v : Json}
      (hkey : (key, fields) ∈ tables) (hget : Assoc.get? key ms = some (.object records))
      (hmem : (name, v) ∈ records) (htruthy : v.truthy = true) (hv : v.members? = none)
  /-- An object does not fit the fields of the record that it stands for. -/
  | unfit {key name : String} {fields : List Field} {records inner : List (String × Json)}
      (hkey : (key, fields) ∈ tables) (hget : Assoc.get? key ms = some (.object records))
      (hmem : (name, .object inner) ∈ records) (hinner : ¬Fits fields inner)

/-- An object that fits the fields. -/
def IsRecord (fields : List Field) (v : Json) : Prop :=
  ∃ inner, v = .object inner ∧ Fits fields inner

/-- An object of records, some of which may be left empty. -/
def IsTable (fields : List Field) (v : Json) : Prop :=
  ∃ records, v = .object records ∧ ∀ m ∈ records, m.2.truthy = true → IsRecord fields m.2

theorem object_of_members? {v : Json} {ms : List (String × Json)} (h : v.members? = some ms) :
    v = .object ms := by
  cases v <;> simp_all [Json.members?]

theorem truthy_object_iff {ms : List (String × Json)} :
    (Json.object ms).truthy = true ↔ ms ≠ [] := by
  cases ms <;> simp [Json.truthy]

/-- Nothing speaks against a document just if all that it says has the right shape. -/
theorem not_rejected_iff {ms : List (String × Json)} :
    ¬Rejected ms ↔
      (∀ key ∈ treeKeys, ∀ v, Assoc.get? key ms = some v → v.truthy = true → IsTree v) ∧
      ∀ s ∈ tables, ∀ v, Assoc.get? s.1 ms = some v → v.truthy = true → IsTable s.2 v := by
  constructor
  · intro h
    refine ⟨fun key hkey v hget ht => by_contra fun hv => h (.tree hkey hget ht hv), ?_⟩
    rintro ⟨key, fields⟩ hkey v hget ht
    cases hv : v.members? with
    | none => exact absurd (.table hkey hget ht hv) h
    | some records =>
        obtain rfl := object_of_members? hv
        refine ⟨records, rfl, ?_⟩
        rintro ⟨name, r⟩ hmem hr
        cases hm : r.members? with
        | none => exact absurd (.noObject hkey hget hmem hr hm) h
        | some inner =>
            obtain rfl := object_of_members? hm
            exact ⟨inner, rfl, by_contra fun hinner => h (.unfit hkey hget hmem hinner)⟩
  · rintro ⟨htree, htable⟩ h
    cases h with
    | tree hkey hget ht hv => exact hv (htree _ hkey _ hget ht)
    | table hkey hget ht hv =>
        obtain ⟨records, rfl, -⟩ := htable _ hkey _ hget ht
        cases hv
    | @noObject key name fields records v hkey hget hmem ht hv =>
        have hne := truthy_object_iff.2 (List.ne_nil_of_mem hmem)
        obtain ⟨_, heq, hrecords⟩ := htable _ hkey _ hget hne
        cases heq
        obtain ⟨inner, rfl, -⟩ := hrecords _ hmem ht
        cases hv
    | @unfit key name fields records inner hkey hget hmem hinner =>
        have ht : (Json.object inner).truthy = true := by
          rw [truthy_object_iff]
          rintro rfl
          exact hinner (fits_nil fields)
        have hne := truthy_object_iff.2 (List.ne_nil_of_mem hmem)
        obtain ⟨_, heq, hrecords⟩ := htable _ hkey _ hget hne
        cases heq
        obtain ⟨_, heq, hfits⟩ := hrecords _ hmem ht
        cases heq
        exact hinner hfits

section

variable {P : Json → Prop} (hempty : P (.object []))

include hempty

theorem orEmpty_iff {v : Json} :
    P (if v.truthy then v else .object []) ↔ (v.truthy = true → P v) := by
  cases hv : v.truthy <;> simp [hempty]

/-- A section has what an empty object has too just if what stands for it and says something
does. -/
theorem content_iff {key : String} {ms : List (String × Json)} :
    P (content key ms) ↔ ∀ v, Assoc.get? key ms = some v → v.truthy = true → P v := by
  rw [content]
  cases Assoc.get? key ms with
  | none => simp [hempty]
  | some v => simp [orEmpty_iff hempty]

end

theorem readTree_eq_ok_iff {v : Json} : (∃ t, readTree v = .ok t) ↔ IsTree v := by
  rw [← ofJson_eq_ok_iff, readTree]
  cases ofJson v <;> simp

section

variable {α : Type} {read : String → List (String × Json) → Except Schema.Report α}
  {fields : List Field} (hread : ∀ name inner, (∃ r, read name inner = .ok r) ↔ Fits fields inner)

include hread

theorem readRecords_eq_ok_iff {records : List (String × Json)} :
    (∃ t, readRecords read records = .ok t) ↔
      ∀ m ∈ records, m.2.truthy = true → IsRecord fields m.2 := by
  refine foldlM_eq_ok_iff fun t m => ?_
  have hempty : IsRecord fields (.object []) := ⟨[], rfl, fits_nil fields⟩
  rw [← orEmpty_iff hempty]
  generalize (if m.2.truthy then m.2 else .object []) = v
  cases v with
  | object inner =>
      simp only [IsRecord, Json.object.injEq, exists_eq_left', ← hread m.1]
      cases h : read m.1 inner <;> simp [bind, Except.bind, h]
  | null | bool _ | int _ | float _ | string _ | array _ => simp [IsRecord, bind, Except.bind]

theorem readSection_eq_ok_iff {v : Json} :
    (∃ t, readSection read v = .ok t) ↔ IsTable fields v := by
  cases v with
  | object records => simp [readSection, IsTable, readRecords_eq_ok_iff hread]
  | null | bool _ | int _ | float _ | string _ | array _ => simp [readSection, IsTable]

end

theorem toIndex_eq_ok_iff {ms : List (String × Json)} :
    (∃ i, toIndex ms = .ok i) ↔ ¬Rejected ms := by
  have hroot : IsTree (.object []) := isTree_object_iff.2 (by simp)
  have hempty (fields : List Field) : IsTable fields (.object []) := ⟨[], rfl, by simp⟩
  have htree (key : String) := readTree_eq_ok_iff.trans (@content_iff _ hroot key ms)
  have hclasses := (readSection_eq_ok_iff ClassRecord.ofMembers_eq_ok_iff).trans
    (@content_iff _ (hempty _) classesKey ms)
  have hmethods := (readSection_eq_ok_iff MethodRecord.ofMembers_eq_ok_iff).trans
    (@content_iff _ (hempty _) methodsKey ms)
  simp only [not_rejected_iff, treeKeys, tables, List.forall_mem_cons, ← htree, ← hclasses,
    ← hmethods]
  simp only [toIndex, bind_eq_ok]
  constructor
  · rintro ⟨i, t1, h1, t2, h2, t3, h3, t4, h4, -⟩
    exact ⟨⟨⟨t1, h1⟩, ⟨t2, h2⟩, by simp⟩, ⟨t3, h3⟩, ⟨t4, h4⟩, by simp⟩
  · rintro ⟨⟨⟨t1, h1⟩, ⟨t2, h2⟩, -⟩, ⟨t3, h3⟩, ⟨t4, h4⟩, -⟩
    exact ⟨_, t1, h1, t2, h2, t3, h3, t4, h4, rfl⟩

/-- Loading a document fails just for the reasons listed, and what fails is always that the document
is malformed; in every other case there is an index. -/
theorem ofMembers_outcome (ms : List (String × Json)) :
    ((∃ fault, ofMembers ms = .error (.malformed fault)) ↔ Rejected ms) ∧
      ((∃ i, ofMembers ms = .ok i) ↔ ¬Rejected ms) := by
  have hok : (∃ i, ofMembers ms = .ok i) ↔ ∃ i, toIndex ms = .ok i := by
    rw [ofMembers]
    cases toIndex ms <;> simp
  have herror : (∃ fault, ofMembers ms = .error (.malformed fault)) ↔ ¬∃ i, toIndex ms = .ok i := by
    rw [ofMembers]
    cases toIndex ms <;> simp
  exact ⟨herror.trans (toIndex_eq_ok_iff.not.trans not_not), hok.trans toIndex_eq_ok_iff⟩

end Artifact
end Exposure
