import Exposure.Discovery.Merge
import Exposure.Proofs.Index.Building

/-!
What failing files leave in the result of a discovery. A file that cannot be read, found in its
module or reflected leaves nothing. A file with a blocked purpose fails while it is merged, and the
calls before the fault stay: so the files that fail are kept apart from the others just as long as
none of them comes to be merged.
-/
namespace Exposure

open Purpose

namespace Index

namespace Call

def tags : Call → List String
  | addClass _ tags => tags
  | addMethod _ tags => tags

/-- One of the tags is blocked, and with it the call. -/
def Blocked (c : Call) : Prop := ∃ tag ∈ c.tags, Purpose.Blocked tag

instance (c : Call) : Decidable c.Blocked :=
  inferInstanceAs (Decidable (∃ tag ∈ c.tags, Purpose.Blocked tag))

/-- The calls up to the first that is blocked, this one included. -/
def started : List Call → List Call
  | [] => []
  | c :: calls => if c.Blocked then [c] else c :: started calls

end Call

theorem addClass_fault {i : Index} (h : i.Grown) (r : ClassRecord) (tags : List String) :
    (i.addClass r tags).fault =
      if (Call.addClass r tags).Blocked then some .notMapping else none :=
  (PurposeTree.registerAll_planted h.classTree r.qualifiedName tags).2.1

theorem addMethod_fault {i : Index} (h : i.Grown) (r : MethodRecord) (tags : List String) :
    (i.addMethod r tags).fault =
      if (Call.addMethod r tags).Blocked then some .notMapping else none :=
  (PurposeTree.registerAll_planted h.methodTree r.qualifiedName tags).2.1

end Index

namespace MethodReflection

def call (m : MethodReflection) : Index.Call := .addMethod m.record m.purposes

end MethodReflection

namespace Reflection

/-- The calls that add the class and its methods to an index. -/
def calls (r : Reflection) : List Index.Call :=
  .addClass r.record r.purposes :: r.methods.map MethodReflection.call

/-- A purpose of the class or of one of its methods is blocked. -/
def Blocked (r : Reflection) : Prop := ∃ c ∈ r.calls, c.Blocked

instance (r : Reflection) : Decidable r.Blocked :=
  inferInstanceAs (Decidable (∃ c ∈ r.calls, c.Blocked))

end Reflection

namespace Index

theorem addMethods_eq {i : Index} (h : i.Grown) (methods : List MethodReflection) :
    (addMethods methods i).index =
        afterCalls (Call.started (methods.map MethodReflection.call)) i ∧
      (addMethods methods i).fault =
        if ∃ c ∈ methods.map MethodReflection.call, c.Blocked then some .notMapping else none := by
  induction methods generalizing i with
  | nil => simp [addMethods, Call.started, afterCalls]
  | cons m methods ih =>
      have hfault : (i.addMethod m.record m.purposes).fault =
          if m.call.Blocked then some .notMapping else none := addMethod_fault h _ _
      have hindex : (i.addMethod m.record m.purposes).index = m.call.apply i := rfl
      obtain ⟨hrest, hrestFault⟩ := ih (h.apply m.call)
      rw [addMethods, List.map_cons, Call.started]
      by_cases hm : m.call.Blocked
      · rw [if_pos hm] at hfault
        simp [hfault, hm, hindex, afterCalls]
      · rw [if_neg hm] at hfault
        simp [hfault, hm, hindex, hrest, hrestFault, afterCalls]

/-- Adding a reflection makes its calls, up to the first that is blocked. -/
theorem addReflection_eq {i : Index} (h : i.Grown) (r : Reflection) :
    (i.addReflection r).index = afterCalls (Call.started r.calls) i ∧
      (i.addReflection r).fault = if r.Blocked then some .notMapping else none := by
  have hfault := addClass_fault h r.record r.purposes
  have hindex : (i.addClass r.record r.purposes).index =
      (Call.addClass r.record r.purposes).apply i := rfl
  obtain ⟨hrest, hrestFault⟩ := addMethods_eq (h.apply (.addClass r.record r.purposes)) r.methods
  have hblocked : r.Blocked ↔ (Call.addClass r.record r.purposes).Blocked ∨
      ∃ c ∈ r.methods.map MethodReflection.call, c.Blocked := by
    simp only [Reflection.Blocked, Reflection.calls, List.mem_cons, or_and_right, exists_or,
      exists_eq_left]
  rw [addReflection, Reflection.calls, Call.started]
  by_cases hc : (Call.addClass r.record r.purposes).Blocked
  · rw [if_pos hc] at hfault
    simp [hfault, hc, hindex, hblocked, afterCalls]
  · rw [if_neg hc] at hfault
    simp [hfault, hc, hindex, hrest, hrestFault, hblocked, afterCalls]

end Index

namespace FileReport

/-- The file is one of the failures: something went wrong before it came to be merged, or a purpose
is blocked. -/
def Failing (r : FileReport) : Prop :=
  match r.outcome with
  | .error _ => True
  | .ok (.exposed refl) => refl.Blocked
  | .ok _ => False

instance : (r : FileReport) → Decidable r.Failing
  | ⟨_, .error _, _⟩ => .isTrue trivial
  | ⟨_, .ok (.exposed refl), _⟩ => inferInstanceAs (Decidable refl.Blocked)
  | ⟨_, .ok .noClass, _⟩ => .isFalse id
  | ⟨_, .ok (.notExposed _), _⟩ => .isFalse id

/-- The calls that merging the report makes. -/
def calls (r : FileReport) : List Index.Call :=
  match r.outcome with
  | .ok (.exposed refl) => Index.Call.started refl.calls
  | _ => []

end FileReport

namespace Discovery

/-- Merging a report makes its calls, and takes the file to the failures if it is failing. -/
theorem merge_eq {d : Discovery} (h : d.index.Grown) (r : FileReport) :
    (d.merge r).1.index = Index.afterCalls r.calls d.index ∧
      (d.merge r).1.failures =
        d.failures ++ if r.Failing then [r.file.relativePath] else [] := by
  have hkeep : (d.keep r.found).index = d.index ∧ (d.keep r.found).failures = d.failures := by
    unfold keep
    cases r.found <;> exact ⟨rfl, rfl⟩
  obtain ⟨file, outcome, found⟩ := r
  rcases outcome with fault | _ | name | refl
  case error => simp [merge, fail, hkeep, FileReport.calls, FileReport.Failing, Index.afterCalls]
  case ok.noClass => simp [merge, hkeep, FileReport.calls, FileReport.Failing, Index.afterCalls]
  case ok.notExposed => simp [merge, hkeep, FileReport.calls, FileReport.Failing, Index.afterCalls]
  case ok.exposed =>
    obtain ⟨hindex, hfault⟩ := Index.addReflection_eq h refl
    by_cases hblocked : refl.Blocked
    · rw [if_pos hblocked] at hfault
      simp [merge, fail, hkeep, hindex, hfault, FileReport.calls, FileReport.Failing, hblocked]
    · rw [if_neg hblocked] at hfault
      simp [merge, hkeep, hindex, hfault, FileReport.calls, FileReport.Failing, hblocked]

theorem mergeAll_cons (d : Discovery) (r : FileReport) (reports : List FileReport) :
    (d.mergeAll (r :: reports)).1 = ((d.merge r).1.mergeAll reports).1 := rfl

theorem mergeAll_eq {d : Discovery} (h : d.index.Grown) (reports : List FileReport) :
    (d.mergeAll reports).1.index = Index.afterCalls (reports.flatMap FileReport.calls) d.index ∧
      (d.mergeAll reports).1.failures = d.failures ++
        (reports.filter fun r => r.Failing).map fun r => r.file.relativePath := by
  induction reports generalizing d with
  | nil => simp [mergeAll, Index.afterCalls]
  | cons r reports ih =>
      obtain ⟨hindex, hfailures⟩ := merge_eq h r
      have hgrown : (d.merge r).1.index.Grown := hindex ▸ h.afterCalls r.calls
      obtain ⟨hrest, hrestFailures⟩ := ih hgrown
      rw [mergeAll_cons]
      refine ⟨?_, ?_⟩
      · rw [hrest, hindex, List.flatMap_cons, Index.afterCalls_append]
      · rw [hrestFailures, hfailures, List.append_assoc]
        by_cases hr : r.Failing <;> simp [hr]

end Discovery
end Exposure
