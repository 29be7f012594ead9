import Exposure.Artifact.Validation
import Exposure.Proofs.Attempt
import Exposure.Proofs.Json.Members
import Exposure.Proofs.Purpose.Shape
import Mathlib.Data.List.Induction

/-!
What the validator accepts. It finds nothing wrong with a document just if the sections hold an
index that is consistent: listed methods have records, method records have classes, and the trees
are well spelled and name nothing that has no record.
-/
namespace Exposure
namespace Artifact

open PurposeTree

/-- A token as it is spelled in a purpose tree. -/
def IsToken (token : String) : Prop := token = Text.upperString token ∧ '.' ∉ token.toList

/-- A bucket entry that names something known. -/
def IsKnown (known : String → Bool) (entry : Json) : Prop :=
  ∃ s, entry = .string s ∧ known s = true

variable {known : String → Bool}

theorem unrecordedEntries_eq_nil_iff {path : String} {es : List Json} :
    unrecordedEntries known path es = .ok [] ↔ ∀ e ∈ es, IsKnown known e := by
  induction es with
  | nil => simp [unrecordedEntries]
  | cons e es ih =>
      rw [List.forall_mem_cons, ← ih]
      cases e with
      | string s =>
          simp only [unrecordedEntries, bind_eq_ok, IsKnown]
          by_cases hs : known s = true <;> simp [hs]
      | array items => simp [unrecordedEntries, IsKnown]
      | object ms => simp [unrecordedEntries, IsKnown]
      | null | bool _ | int _ | float _ => simp [unrecordedEntries, bind_eq_ok, IsKnown]

theorem nodeRemarks_eq_nil_iff {path token : String} {v : Json} :
    nodeRemarks known path token v = .ok [] ↔
      ∃ ms, v = .object ms ∧ IsToken token ∧ HasBucket (IsKnown known) ms := by
  cases v with
  | object ms =>
      cases hb : Assoc.get? bucketKey ms with
      | none => simp [nodeRemarks, hb, bind_eq_ok, HasBucket, IsToken]
      | some b =>
          cases b with
          | array es =>
              have hes : unrecordedEntries known path es = .ok [] ↔ ∀ e ∈ es, IsKnown known e :=
                unrecordedEntries_eq_nil_iff
              simp [nodeRemarks, hb, bind_eq_ok, HasBucket, IsToken, ← hes]
              exact and_comm
          | null | bool _ | int _ | float _ | string _ | object _ =>
              simp [nodeRemarks, hb, bind_eq_ok, HasBucket]
  | null | bool _ | int _ | float _ | string _ | array _ => simp [nodeRemarks]

theorem treeRemarks_cons_eq_nil_iff {path key : String} (hk : key ≠ bucketKey) {v : Json}
    {rest : List (String × Json)} :
    treeRemarks known path ((key, v) :: rest) = .ok [] ↔
      nodeRemarks known (path ++ "." ++ key) key v = .ok [] ∧
        childRemarks known (path ++ "." ++ key) v = .ok [] ∧
        treeRemarks known path rest = .ok [] := by
  rw [treeRemarks, if_neg hk]
  simp only [bind_eq_ok, Except.ok.injEq, List.append_eq_nil_iff]
  constructor
  · rintro ⟨_, hown, _, hbelow, _, hrest, ⟨rfl, rfl⟩, rfl⟩
    exact ⟨hown, hbelow, hrest⟩
  · rintro ⟨hown, hbelow, hrest⟩
    exact ⟨[], hown, [], hbelow, [], hrest, ⟨rfl, rfl⟩, rfl⟩

/-- The validator finds nothing wrong below a node just if the tree has the shape. -/
theorem treeRemarks_eq_nil_iff {path : String} {ms : List (String × Json)} :
    treeRemarks known path ms = .ok [] ↔ Shaped IsToken (IsKnown known) ms := by
  induction ms using Json.members_induction generalizing path with
  | nil => simp [treeRemarks, Shaped.nil]
  | object key inner rest ihi ihr =>
      by_cases hk : key = bucketKey
      · subst hk
        rw [treeRemarks, if_pos rfl, ihr, shaped_bucket_iff]
      · rw [treeRemarks_cons_eq_nil_iff hk, shaped_node_iff hk, nodeRemarks_eq_nil_iff,
          childRemarks, ihi, ihr]
        simp [and_assoc]
  | other key value rest hv ihr =>
      by_cases hk : key = bucketKey
      · subst hk
        rw [treeRemarks, if_pos rfl, ihr, shaped_bucket_iff]
      · have hobj : ∀ inner, value ≠ .object inner := by
          rintro inner rfl
          cases hv
        rw [treeRemarks_cons_eq_nil_iff hk, shaped_node_iff hk, nodeRemarks_eq_nil_iff]
        simp [hobj]

theorem rootRemarks_eq_nil_iff {sectionKey : String} {ms : List (String × Json)} :
    rootRemarks known sectionKey ms = .ok [] ↔
      Assoc.get? bucketKey ms = none ∧ Shaped IsToken (IsKnown known) ms := by
  have htree : treeRemarks known sectionKey ms = .ok [] ↔ Shaped IsToken (IsKnown known) ms :=
    treeRemarks_eq_nil_iff
  rw [← htree]
  simp only [rootRemarks, bind_eq_ok, Except.ok.injEq, List.append_eq_nil_iff]
  cases Assoc.get? bucketKey ms <;> simp

end Artifact

open Artifact PurposeTree

/-- What is listed or named has a record, and what is recorded for a method has an owner. -/
structure Index.Consistent (i : Index) : Prop where
  listed : ∀ name r, i.classes.get? name = some r → ∀ m ∈ r.methodNames,
    i.methods.contains (joinMethodName name m) = true
  owned : ∀ name r, i.methods.get? name = some r →
    r.name ≠ "" ∧ i.classes.contains r.className = true
  classRoot : Assoc.get? bucketKey i.classPurposes.members = none
  methodRoot : Assoc.get? bucketKey i.methodPurposes.members = none
  classTree : Shaped IsToken (IsKnown i.classes.contains) i.classPurposes.members
  methodTree : Shaped IsToken (IsKnown i.methods.contains) i.methodPurposes.members

namespace Artifact

theorem unrecordedMethods_eq_nil_iff {classes : Table ClassRecord}
    {methods : Table MethodRecord} :
    unrecordedMethods classes methods = [] ↔
      ∀ name r, classes.get? name = some r → ∀ m ∈ r.methodNames,
        methods.contains (joinMethodName name m) = true := by
  simp [unrecordedMethods, List.flatMap_eq_nil_iff, Table.mem_entries_iff]

theorem misplacedMethods_eq_nil_iff {classes : Table ClassRecord}
    {methods : Table MethodRecord} :
    misplacedMethods classes methods = [] ↔
      ∀ name r, methods.get? name = some r →
        r.name ≠ "" ∧ classes.contains r.className = true := by
  simp only [misplacedMethods, List.filterMap_eq_nil_iff, Table.mem_entries_iff, Prod.forall]
  refine forall₃_congr fun name r _ => ?_
  by_cases hname : r.name = "" <;> simp [hname]

section

variable {α : Type} {read : String → List (String × Json) → Except Schema.Report α}
  {sectionKey : String} {xs : List (String × Json)}

/-- Reads one more member of a section. -/
def readNext (read : String → List (String × Json) → Except Schema.Report α) (sectionKey : String)
    (p : Table α × List Remark) (m : String × Json) : Table α × List Remark :=
  match m.2 with
  | .object ms =>
    match read m.1 ms with
    | .ok r => (p.1.insert m.1 r, p.2)
    | .error report => (p.1, p.2 ++ [⟨.recordRefused report, some (sectionKey ++ "." ++ m.1)⟩])
  | _ => (p.1, p.2 ++ [⟨.nodeNotObject, some (sectionKey ++ "." ++ m.1)⟩])

theorem readableRecords_concat (xs : List (String × Json)) (m : String × Json) :
    readableRecords read sectionKey (xs ++ [m]) =
      readNext read sectionKey (readableRecords read sectionKey xs) m := by
  unfold readableRecords
  rw [List.foldl_append]
  rfl

/-- One more member is read without a complaint just if it is an object that can be read. -/
theorem readableRecords_concat_iff {m : String × Json} {t : Table α} :
    readableRecords read sectionKey (xs ++ [m]) = (t, []) ↔
      ∃ t' ms r, readableRecords read sectionKey xs = (t', []) ∧ m.2 = .object ms ∧
        read m.1 ms = .ok r ∧ t = t'.insert m.1 r := by
  rw [readableRecords_concat]
  obtain ⟨t', found⟩ := readableRecords read sectionKey xs
  unfold readNext
  cases hm : m.2 with
  | object ms =>
      cases hr : read m.1 ms with
      | ok r =>
          simp only [hr, Prod.mk.injEq, Json.object.injEq]
          constructor
          · rintro ⟨rfl, rfl⟩
            exact ⟨t', ms, r, ⟨rfl, rfl⟩, rfl, hr, rfl⟩
          · rintro ⟨_, _, s, ⟨rfl, rfl⟩, rfl, hs, rfl⟩
            rw [hr] at hs
            cases hs
            exact ⟨rfl, rfl⟩
      | error report => simp [hr]
  | null | bool _ | int _ | float _ | string _ | array _ => simp

/-- The record that the members of a section hold under a name. -/
def recordIn? (read : String → List (String × Json) → Except Schema.Report α)
    (xs : List (String × Json)) (name : String) : Option α :=
  match Assoc.get? name xs with
  | some (.object ms) => (read name ms).toOption
  | _ => none

theorem recordIn?_eq_some_iff {name : String} {r : α} :
    recordIn? read xs name = some r ↔
      ∃ ms, Assoc.get? name xs = some (.object ms) ∧ read name ms = .ok r := by
  rw [recordIn?]
  cases Assoc.get? name xs with
  | none => simp
  | some v =>
      cases v with
      | object ms =>
          cases hr : read name ms with
          | ok s => simp [hr, toOption_ok]
          | error report => simp [hr, toOption_error]
      | null | bool _ | int _ | float _ | string _ | array _ => simp

/-- There is a record under each key just if each member is an object that can be read. -/
theorem forall_recordIn?_iff (hn : (Assoc.keys xs).Nodup) :
    (∀ name ∈ Assoc.keys xs, (recordIn? read xs name).isSome = true) ↔
      ∀ m ∈ xs, ∃ ms r, m.2 = .object ms ∧ read m.1 ms = .ok r := by
  rw [Assoc.keys, List.forall_mem_map]
  refine forall₂_congr fun m hm => ?_
  simp only [Option.isSome_iff_exists, recordIn?_eq_some_iff, Assoc.get?_of_mem hn hm,
    Option.some.injEq]
  exact exists_comm

/-- A section is read without a complaint just if each member is an object that can be read. -/
theorem exists_readableRecords_iff :
    (∃ t, readableRecords read sectionKey xs = (t, [])) ↔
      ∀ m ∈ xs, ∃ ms r, m.2 = .object ms ∧ read m.1 ms = .ok r := by
  induction xs using List.reverseRecOn with
  | nil => simpa using ⟨Table.empty, rfl⟩
  | append_singleton xs m ih =>
      simp only [readableRecords_concat_iff, List.forall_mem_append, List.forall_mem_singleton,
        ← ih]
      constructor
      · rintro ⟨_, t, ms, r, ht, hm, hr, -⟩
        exact ⟨⟨t, ht⟩, ms, r, hm, hr⟩
      · rintro ⟨⟨t, ht⟩, ms, r, hm, hr⟩
        exact ⟨_, t, ms, r, ht, hm, hr, rfl⟩

theorem get?_of_readableRecords (hn : (Assoc.keys xs).Nodup) {t : Table α}
    (h : readableRecords read sectionKey xs = (t, [])) (name : String) :
    t.get? name = recordIn? read xs name := by
  induction xs using List.reverseRecOn generalizing t with
  | nil =>
      cases h
      rfl
  | append_singleton xs m ih =>
      obtain ⟨t', ms, r, ht', hm, hr, rfl⟩ := readableRecords_concat_iff.1 h
      rw [Assoc.keys, List.map_append, List.nodup_append] at hn
      obtain ⟨hn', -, hdisjoint⟩ := hn
      rw [Table.get?_insert, ih hn' ht', recordIn?, recordIn?, Assoc.get?_append]
      split
      · rename_i hname
        have hnew : m.1 ∉ Assoc.keys xs := fun hmem => hdisjoint _ hmem _ (by simp) rfl
        rw [← hname, Assoc.get?_eq_none hnew, Option.none_or]
        simp [Assoc.get?, hm, hr, toOption_ok]
      · rename_i hname
        rw [Assoc.get?, if_neg hname, Assoc.get?_nil, Option.or_none]

end

/-- The sections of a document hold the index, and all their records can be read. -/
structure Holds (ms : List (String × Json)) (i : Index) : Prop where
  classTree : sectionMembers classPurposesKey ms = (i.classPurposes.members, [])
  methodTree : sectionMembers methodPurposesKey ms = (i.methodPurposes.members, [])
  classSection : (sectionMembers classesKey ms).2 = []
  methodSection : (sectionMembers methodsKey ms).2 = []
  classes : readableRecords ClassRecord.ofMembers classesKey (sectionMembers classesKey ms).1 =
    (i.classes, [])
  methods : readableRecords MethodRecord.ofMembers methodsKey (sectionMembers methodsKey ms).1 =
    (i.methods, [])

/-- The members that the validator only warns about. -/
def unknownSections (ms : List (String × Json)) : List Remark :=
  (ms.filter fun m => !sectionKeys.contains m.1).map fun m => ⟨.unknownSection, some m.1⟩

/-- A document is without errors just if it holds a consistent index. -/
theorem memberRemarks_eq_iff {ms : List (String × Json)} {warnings : List Remark} :
    memberRemarks ms = .ok ⟨[], warnings⟩ ↔
      warnings = unknownSections ms ∧ ∃ i, Holds ms i ∧ i.Consistent := by
  -- Each part of the check has its list of errors, and all of these have to be empty.
  rcases h1 : sectionMembers classPurposesKey ms with ⟨ct, r1⟩
  rcases h2 : sectionMembers methodPurposesKey ms with ⟨mt, r2⟩
  rcases h3 : sectionMembers classesKey ms with ⟨cs, r3⟩
  rcases h4 : sectionMembers methodsKey ms with ⟨ks, r4⟩
  rcases h5 : readableRecords ClassRecord.ofMembers classesKey cs with ⟨classes, r5⟩
  rcases h6 : readableRecords MethodRecord.ofMembers methodsKey ks with ⟨methods, r6⟩
  simp only [memberRemarks, h1, h2, h3, h4, h5, h6, bind_eq_ok, Except.ok.injEq,
    Remarks.mk.injEq, List.append_eq_nil_iff]
  constructor
  · rintro ⟨r9, h9, r10, h10, ⟨⟨⟨⟨⟨⟨⟨⟨⟨rfl, rfl⟩, rfl⟩, rfl⟩, rfl⟩, rfl⟩, h7⟩, h8⟩, rfl⟩, rfl⟩, hw⟩
    obtain ⟨hcr, hct⟩ := rootRemarks_eq_nil_iff.1 h9
    obtain ⟨hmr, hmt⟩ := rootRemarks_eq_nil_iff.1 h10
    refine ⟨hw.symm, ⟨⟨ct⟩, ⟨mt⟩, classes, methods⟩, ?_, ?_⟩
    · exact ⟨h1, h2, by rw [h3], by rw [h4], by rw [h3, h5], by rw [h4, h6]⟩
    · exact ⟨unrecordedMethods_eq_nil_iff.1 h7, misplacedMethods_eq_nil_iff.1 h8, hcr, hmr, hct,
        hmt⟩
  · rintro ⟨hw, i, hold, hi⟩
    obtain ⟨rfl, rfl⟩ := Prod.mk.inj (h1.symm.trans hold.classTree)
    obtain ⟨rfl, rfl⟩ := Prod.mk.inj (h2.symm.trans hold.methodTree)
    obtain rfl : r3 = [] := by simpa only [h3] using hold.classSection
    obtain rfl : r4 = [] := by simpa only [h4] using hold.methodSection
    have hclasses := hold.classes
    have hmethods := hold.methods
    rw [h3] at hclasses
    rw [h4] at hmethods
    obtain ⟨rfl, rfl⟩ := Prod.mk.inj (h5.symm.trans hclasses)
    obtain ⟨rfl, rfl⟩ := Prod.mk.inj (h6.symm.trans hmethods)
    exact ⟨[], rootRemarks_eq_nil_iff.2 ⟨hi.classRoot, hi.classTree⟩, [],
      rootRemarks_eq_nil_iff.2 ⟨hi.methodRoot, hi.methodTree⟩,
      ⟨⟨⟨⟨⟨⟨⟨⟨⟨rfl, rfl⟩, rfl⟩, rfl⟩, rfl⟩, rfl⟩, unrecordedMethods_eq_nil_iff.2 hi.listed⟩,
        misplacedMethods_eq_nil_iff.2 hi.owned⟩, rfl⟩, rfl⟩, hw.symm⟩

/-- A document is without errors just if it is an object that holds a consistent index. -/
theorem documentRemarks_ok_iff {document : Option Json} :
    (∃ rs, documentRemarks document = .ok rs ∧ rs.errors = []) ↔
      ∃ ms i, document = some (.object ms) ∧ Holds ms i ∧ i.Consistent := by
  constructor
  · rintro ⟨⟨_, warnings⟩, hrs, rfl⟩
    cases document with
    | none => cases hrs
    | some v =>
        cases v with
        | object ms =>
            obtain ⟨-, i, hold, hi⟩ := memberRemarks_eq_iff.1 hrs
            exact ⟨ms, i, rfl, hold, hi⟩
        | null | bool _ | int _ | float _ | string _ | array _ => cases hrs
  · rintro ⟨ms, i, rfl, hold, hi⟩
    exact ⟨⟨[], unknownSections ms⟩, memberRemarks_eq_iff.2 ⟨rfl, i, hold, hi⟩, rfl⟩

end Artifact
end Exposure
