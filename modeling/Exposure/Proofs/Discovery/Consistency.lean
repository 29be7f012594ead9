import Exposure.Discovery.Merge
import Exposure.Proofs.Artifact.Encoding
import Exposure.Proofs.Purpose.Address
import Exposure.Proofs.Record.MethodName

/-!
Every discovery ends with an index whose document validates, whatever the files come to and in
whatever order they are merged. While a class is being merged it lists methods that are still to
come; the invariant keeps account of them.
-/
namespace Exposure

open Artifact PurposeTree

/-- The tag runs through no reserved key. -/
def PlainTag (tag : String) : Prop := bucketKey ∉ Purpose.address tag

instance (tag : String) : Decidable (PlainTag tag) :=
  inferInstanceAs (Decidable (bucketKey ∉ Purpose.address tag))

/-- The names of a reflection belong together, and its tags can be registered. -/
structure Reflection.WellNamed (r : Reflection) : Prop where
  className : ':' ∉ r.record.qualifiedName.toList
  methodName : ∀ m ∈ r.methods, ∃ n, n ≠ "" ∧
    m.record.qualifiedName = joinMethodName r.record.qualifiedName n
  listed : ∀ n ∈ r.record.methodNames, ∃ m ∈ r.methods,
    m.record.qualifiedName = joinMethodName r.record.qualifiedName n
  classTags : ∀ tag ∈ r.purposes, PlainTag tag
  methodTags : ∀ m ∈ r.methods, ∀ tag ∈ m.purposes, PlainTag tag

/-- The invariant of merging: `owed` are the listed methods that are still to come. -/
structure Index.Kept (owed : List String) (i : Index) : Prop where
  classTree : Regular IsToken (IsKnown i.classes.contains) i.classPurposes
  methodTree : Regular IsToken (IsKnown i.methods.contains) i.methodPurposes
  listed : ∀ name r, i.classes.get? name = some r → ∀ m ∈ r.methodNames,
    i.methods.contains (joinMethodName name m) = true ∨ joinMethodName name m ∈ owed
  owned : ∀ name r, i.methods.get? name = some r →
    r.qualifiedName = name ∧ r.name ≠ "" ∧ i.classes.contains r.className = true

namespace PurposeTree

theorem regular_registerAll {entry : Json → Prop} {t : PurposeTree} (h : Regular IsToken entry t)
    {name : String} (hname : entry (.string name)) {tags : List String}
    (htags : ∀ tag ∈ tags, PlainTag tag) :
    (t.registerAll name tags).2.2 = none ∧ Regular IsToken entry (t.registerAll name tags).1 := by
  induction tags generalizing t with
  | nil => exact ⟨rfl, h⟩
  | cons tag tags ih =>
      have hrest : ∀ x ∈ tags, PlainTag x := fun x hx => htags x (by simp [hx])
      by_cases haddr : Purpose.address tag = []
      · rw [registerAll, register_of_address_nil haddr]
        exact ih h hrest
      · have htoken : ∀ x ∈ Purpose.address tag, x ≠ bucketKey ∧ IsToken x := by
          intro x hx
          refine ⟨?_, (Purpose.upperString_of_mem_address hx).symm,
            (Purpose.isName_of_mem_address hx).2⟩
          rintro rfl
          exact htags tag (by simp) hx
        obtain ⟨hnone, hreg⟩ := regular_register h hname haddr htoken
        rw [registerAll]
        generalize t.register tag name = p at hnone hreg
        obtain ⟨t', raised⟩ := p
        cases hnone
        exact ih hreg hrest

end PurposeTree

namespace Index

theorem isKnown_insert {α : Type} (t : Table α) (name : String) (r : α) :
    (∀ e, IsKnown t.contains e → IsKnown (t.insert name r).contains e) ∧
      IsKnown (t.insert name r).contains (.string name) := by
  refine ⟨?_, name, rfl, by simp [Table.contains_insert]⟩
  rintro e ⟨s, rfl, hs⟩
  exact ⟨s, rfl, by simp [Table.contains_insert, hs]⟩

theorem regular_insert {α : Type} {t : Table α} {tree : PurposeTree}
    (h : Regular IsToken (IsKnown t.contains) tree) (name : String) (r : α) {tags : List String}
    (htags : ∀ tag ∈ tags, PlainTag tag) :
    (tree.registerAll name tags).2.2 = none ∧
      Regular IsToken (IsKnown (t.insert name r).contains) (tree.registerAll name tags).1 := by
  obtain ⟨hmono, hname⟩ := isKnown_insert t name r
  exact regular_registerAll (h.mono (fun _ => id) hmono) hname htags

theorem addClass_of_registered {i : Index} {r : ClassRecord} {tags : List String}
    (h : (i.classPurposes.registerAll r.qualifiedName tags).2.2 = none) :
    (i.addClass r tags).fault = none ∧ (i.addClass r tags).index =
      { i with
        classPurposes := (i.classPurposes.registerAll r.qualifiedName tags).1
        classes := i.classes.insert r.qualifiedName r } := by
  simp only [Index.addClass, h, and_self]

theorem addMethod_of_registered {i : Index} {r : MethodRecord} {tags : List String}
    (h : (i.methodPurposes.registerAll r.qualifiedName tags).2.2 = none) :
    (i.addMethod r tags).fault = none ∧ (i.addMethod r tags).index =
      { i with
        methodPurposes := (i.methodPurposes.registerAll r.qualifiedName tags).1
        methods := i.methods.insert r.qualifiedName r } := by
  simp only [Index.addMethod, h, and_self]

/-- A class brings a debt: the methods that it lists. -/
theorem Kept.addClass {i : Index} (h : i.Kept []) (r : ClassRecord) {tags : List String}
    (htags : ∀ tag ∈ tags, PlainTag tag) :
    (i.addClass r tags).fault = none ∧
      (i.addClass r tags).index.Kept (r.methodNames.map (joinMethodName r.qualifiedName)) ∧
      (i.addClass r tags).index.classes.contains r.qualifiedName = true := by
  obtain ⟨hnone, hreg⟩ := regular_insert h.classTree r.qualifiedName r htags
  obtain ⟨hfault, hindex⟩ := addClass_of_registered hnone
  rw [hindex]
  refine ⟨hfault, ⟨hreg, h.methodTree, ?_, ?_⟩, ?_⟩
  · intro name s hs m hm
    rw [Table.get?_insert] at hs
    split at hs
    · rename_i heq
      cases hs
      subst heq
      exact .inr (List.mem_map_of_mem hm)
    · exact .inl ((h.listed name s hs m hm).resolve_right (by simp))
  · intro name s hs
    obtain ⟨hfiled, hname, howner⟩ := h.owned name s hs
    exact ⟨hfiled, hname, by simp [Table.contains_insert, howner]⟩
  · simp [Table.contains_insert]

/-- A method settles what is owed under its name. -/
theorem Kept.addMethod {owed rest : List String} {i : Index} (h : i.Kept owed)
    {r : MethodRecord} {className n : String} (hcolon : ':' ∉ className.toList)
    (hrecord : r.qualifiedName = joinMethodName className n) (hn : n ≠ "")
    (hclass : i.classes.contains className = true)
    (howed : ∀ o ∈ owed, o = r.qualifiedName ∨ o ∈ rest) {tags : List String}
    (htags : ∀ tag ∈ tags, PlainTag tag) :
    (i.addMethod r tags).fault = none ∧ (i.addMethod r tags).index.Kept rest ∧
      (i.addMethod r tags).index.classes = i.classes := by
  have hsplit : splitMethodName r.qualifiedName = (className, n) := by
    rw [hrecord, splitMethodName_joinMethodName hcolon]
  obtain ⟨hnone, hreg⟩ := regular_insert h.methodTree r.qualifiedName r htags
  obtain ⟨hfault, hindex⟩ := addMethod_of_registered hnone
  rw [hindex]
  refine ⟨hfault, ⟨h.classTree, hreg, ?_, ?_⟩, rfl⟩
  · intro name s hs m hm
    rw [Table.contains_insert, Bool.or_eq_true, beq_iff_eq]
    rcases h.listed name s hs m hm with hrec | hdue
    · exact .inl (.inr hrec)
    · rcases howed _ hdue with heq | hmem
      · exact .inl (.inl heq.symm)
      · exact .inr hmem
  · intro name s hs
    rw [Table.get?_insert] at hs
    split at hs
    · rename_i heq
      cases hs
      refine ⟨heq, ?_, ?_⟩
      · simpa only [MethodRecord.name, hsplit] using hn
      · simpa only [MethodRecord.className, hsplit] using hclass
    · exact h.owned name s hs

theorem Kept.addMethods {className : String} (hcolon : ':' ∉ className.toList)
    {ms : List MethodReflection}
    (hms : ∀ m ∈ ms, ∃ n, n ≠ "" ∧ m.record.qualifiedName = joinMethodName className n)
    (htags : ∀ m ∈ ms, ∀ tag ∈ m.purposes, PlainTag tag) {owed : List String} {i : Index}
    (h : i.Kept owed) (hclass : i.classes.contains className = true)
    (howed : ∀ o ∈ owed, ∃ m ∈ ms, m.record.qualifiedName = o) :
    (addMethods ms i).fault = none ∧ (addMethods ms i).index.Kept [] := by
  -- What is owed shrinks with every method, and only methods that are still to come are owed.
  induction ms generalizing owed i with
  | nil =>
      refine ⟨rfl, ?_⟩
      cases owed with
      | nil => exact h
      | cons o owed =>
          obtain ⟨m, hm, -⟩ := howed o (by simp)
          cases hm
  | cons m ms ih =>
      obtain ⟨n, hn, hrecord⟩ := hms m (by simp)
      have hsettled : ∀ o ∈ owed, o = m.record.qualifiedName ∨
          o ∈ owed.filter (· ≠ m.record.qualifiedName) := by
        intro o ho
        by_cases heq : o = m.record.qualifiedName <;> simp [heq, ho]
      obtain ⟨hnone, hkept, hclasses⟩ :=
        h.addMethod hcolon hrecord hn hclass hsettled (htags m (by simp))
      rw [Index.addMethods]
      dsimp only
      rw [hnone]
      refine ih (fun x hx => hms x (by simp [hx])) (fun x hx => htags x (by simp [hx])) hkept
        (by rw [hclasses, hclass]) ?_
      intro o ho
      obtain ⟨hmem, hne⟩ := List.mem_filter.1 ho
      obtain ⟨x, hx, hxo⟩ := howed o hmem
      rcases List.mem_cons.1 hx with rfl | hx
      · simp [hxo] at hne
      · exact ⟨x, hx, hxo⟩

theorem Kept.addReflection {r : Reflection} (hr : r.WellNamed) {i : Index} (h : i.Kept []) :
    (i.addReflection r).fault = none ∧ (i.addReflection r).index.Kept [] := by
  obtain ⟨hnone, hkept, hclass⟩ := h.addClass r.record hr.classTags
  unfold Index.addReflection
  dsimp only
  rw [hnone]
  refine Kept.addMethods hr.className hr.methodName hr.methodTags hkept hclass ?_
  intro o ho
  obtain ⟨n, hn, rfl⟩ := List.mem_map.1 ho
  exact hr.listed n hn

theorem kept_empty : ({} : Index).Kept [] :=
  ⟨regular_empty, regular_empty, (fun _ _ h => nomatch h), (fun _ _ h => nomatch h)⟩

/-- An index with no debt is consistent, also as its records read back. -/
theorem Kept.consistent_readBack {i : Index} (h : i.Kept []) : i.readBack.Consistent := by
  have hi : i.Consistent := by
    refine ⟨fun name r hr m hm => ?_, fun name r hr => (h.owned name r hr).2,
      h.classTree.noRootBucket, h.methodTree.noRootBucket, h.classTree.shaped, h.methodTree.shaped⟩
    exact (h.listed name r hr m hm).resolve_right (by simp)
  exact hi.readBack fun name r hr => (h.owned name r hr).1

end Index

namespace Discovery

theorem kept_merge {d : Discovery} (h : d.index.Kept []) {r : FileReport}
    (hr : ∀ refl, r.outcome = .ok (.exposed refl) → refl.WellNamed) :
    (d.merge r).1.index.Kept [] := by
  have hkeep : (d.keep r.found).index = d.index := by
    unfold keep
    cases r.found <;> rfl
  unfold merge
  cases hout : r.outcome with
  | error fault => simpa only [fail, hkeep] using h
  | ok outcome =>
      cases outcome with
      | noClass => simpa only [hkeep] using h
      | notExposed name => simpa only [hkeep] using h
      | exposed refl =>
          obtain ⟨hnone, hkept⟩ := h.addReflection (hr refl hout)
          simpa only [hkeep, hnone] using hkept

theorem kept_mergeAll {reports : List FileReport}
    (h : ∀ r ∈ reports, ∀ refl, r.outcome = .ok (.exposed refl) → refl.WellNamed)
    {d : Discovery} (hd : d.index.Kept []) : (d.mergeAll reports).1.index.Kept [] := by
  induction reports generalizing d with
  | nil => exact hd
  | cons r reports ih =>
      exact ih (fun x hx => h x (by simp [hx])) (kept_merge hd (h r (by simp)))

/-- Whatever the files come to, the document of a discovery is without errors and warnings. -/
theorem documentRemarks_mergeAll (reports : List FileReport)
    (h : ∀ r ∈ reports, ∀ refl, r.outcome = .ok (.exposed refl) → refl.WellNamed) :
    documentRemarks (some (ofIndex (mergeAll {} reports).1.index)) = .ok {} := by
  have hkept : (mergeAll {} reports).1.index.Kept [] := kept_mergeAll h Index.kept_empty
  exact documentRemarks_ofIndex hkept.classTree hkept.methodTree hkept.consistent_readBack

/-- A class with one method, under tags that are usable or have no token. -/
def loggingReflection (method : String) (tag : String) : Reflection where
  record := { qualifiedName := "app.Log", displayName := some "", methodNames := [method] }
  purposes := [tag, " . "]
  methods := [⟨{ qualifiedName := "app.Log::" ++ method }, [tag, ""]⟩]

/-- Files that fail, stay unexposed, and give the same class twice with different methods. -/
def loggingReports : List FileReport := [
  ⟨⟨{}, ["broken.py"]⟩, .error .notText, none⟩,
  ⟨⟨{}, ["log.py"]⟩, .ok (.exposed (loggingReflection "write" "log.write")), none⟩,
  ⟨⟨{}, ["hidden.py"]⟩, .ok (.notExposed "app.Hidden"), none⟩,
  ⟨⟨{}, ["again.py"]⟩, .ok (.exposed (loggingReflection "::" "*.#x")), none⟩]

theorem wellNamed_loggingReflection {method tag : String} (hmethod : method ≠ "")
    (htag : PlainTag tag) : (loggingReflection method tag).WellNamed := by
  have hdots : PlainTag " . " := by decide +kernel
  have hempty : PlainTag "" := by decide +kernel
  refine ⟨?_, ?_, ?_, ?_, ?_⟩
  · simp [loggingReflection]
  · simpa [loggingReflection, joinMethodName, methodSeparator] using hmethod
  · simp [loggingReflection, joinMethodName, methodSeparator]
  · simp [loggingReflection, htag, hdots]
  · simp [loggingReflection, htag, hempty]

theorem documentRemarks_mergeAll_logging :
    (∀ r ∈ loggingReports, ∀ refl, r.outcome = .ok (.exposed refl) → refl.WellNamed) ∧
    documentRemarks (some (ofIndex (mergeAll {} loggingReports).1.index)) = .ok {} := by
  have h : ∀ r ∈ loggingReports, ∀ refl, r.outcome = .ok (.exposed refl) → refl.WellNamed := by
    intro r hr refl hrefl
    simp only [loggingReports, List.mem_cons, List.not_mem_nil, or_false] at hr
    rcases hr with rfl | rfl | rfl | rfl <;> cases hrefl
    · exact wellNamed_loggingReflection (by decide) (by decide +kernel)
    · exact wellNamed_loggingReflection (by decide) (by decide +kernel)
  exact ⟨h, documentRemarks_mergeAll loggingReports h⟩

end Discovery
end Exposure
