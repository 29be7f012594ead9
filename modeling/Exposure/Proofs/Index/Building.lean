import Exposure.Index
import Exposure.Proofs.Artifact.Loading
import Exposure.Proofs.Purpose.Growth

/-!
Indexes as calls build them. A call adds a record under some tags; if one of these is blocked the
call ends there, and the index keeps what it has got until then. Every index that is built so has
planted trees and files each record under its own name.
-/
namespace Exposure

open Purpose

namespace PurposeTree

/-- The tags that a registration of several comes to: all up to the first that is blocked. -/
def attempted (name : String) : List String → PurposeTree → List String
  | [], _ => []
  | tag :: tags, t =>
    tag :: match t.register tag name with
      | (_, some (.blocked _)) => []
      | (t', _) => attempted name tags t'

/-- Registering under several tags keeps a tree planted. It is blocked just if one of the tags is,
and makes a node under the reserved key of the root just if a tag that it comes to begins so. -/
theorem registerAll_planted {t : PurposeTree} (h : Planted t) (name : String)
    (tags : List String) :
    Planted (t.registerAll name tags).1 ∧
      ((t.registerAll name tags).2.2 =
        if ∃ tag ∈ tags, Blocked tag then some .notMapping else none) ∧
      ((Assoc.get? bucketKey (t.registerAll name tags).1.members).isSome ↔
        (Assoc.get? bucketKey t.members).isSome ∨ ∃ tag ∈ t.attempted name tags, Reserved tag) := by
  induction tags generalizing t with
  | nil => simp [registerAll, attempted, h]
  | cons tag tags ih =>
      obtain ⟨hplanted, hraised, hroot⟩ := register_planted h tag name
      rw [registerAll, attempted]
      generalize t.register tag name = r at hplanted hraised hroot
      obtain ⟨t', raised⟩ := r
      obtain ⟨hplanted', hfault', hroot'⟩ := ih hplanted
      rw [hroot] at hroot'
      by_cases haddr : address tag = []
      · have hblocked : ¬Blocked tag := by
          rw [Blocked, haddr]
          exact List.not_mem_nil
        rw [if_pos haddr] at hraised
        cases hraised
        exact ⟨hplanted', by simp [hfault', hblocked], by simp [hroot', or_assoc]⟩
      · rw [if_neg haddr] at hraised
        by_cases hblocked : Blocked tag
        · rw [if_pos hblocked] at hraised
          cases hraised
          exact ⟨hplanted, by simp [hblocked], by simp [hroot]⟩
        · rw [if_neg hblocked] at hraised
          cases hraised
          exact ⟨hplanted', by simp [hfault', hblocked], by simp [hroot', or_assoc]⟩

end PurposeTree

namespace Index

/-- A call that adds a record under some tags. -/
inductive Call where
  | addClass (record : ClassRecord) (tags : List String)
  | addMethod (record : MethodRecord) (tags : List String)

namespace Call

/-- The record can come from a document: it binds no import name twice. -/
def Valid : Call → Prop
  | addClass record _ => (Assoc.keys record.importAliases).Nodup
  | addMethod _ _ => True

/-- The index after a call, also after one that is blocked. -/
def apply (i : Index) : Call → Index
  | addClass record tags => (i.addClass record tags).index
  | addMethod record tags => (i.addMethod record tags).index

/-- The tags that a call comes to. -/
def attempted (i : Index) : Call → List String
  | addClass record tags => i.classPurposes.attempted record.qualifiedName tags
  | addMethod record tags => i.methodPurposes.attempted record.qualifiedName tags

end Call

/-- The index that calls build from another one. -/
def afterCalls (calls : List Call) (i : Index) : Index := calls.foldl Call.apply i

theorem afterCalls_append (cs calls : List Call) (i : Index) :
    afterCalls (cs ++ calls) i = afterCalls calls (afterCalls cs i) :=
  List.foldl_append

/-- The tags that calls come to. -/
def attemptedTags : List Call → Index → List String
  | [], _ => []
  | c :: calls, i => c.attempted i ++ attemptedTags calls (c.apply i)

/-- Both trees are such as registrations build. -/
structure Grown (i : Index) : Prop where
  classTree : PurposeTree.Planted i.classPurposes
  methodTree : PurposeTree.Planted i.methodPurposes

/-- What holds of every index that calls build. -/
structure Built (i : Index) : Prop extends Grown i where
  filed : Artifact.Filed i
  aliases : ∀ name r, i.classes.get? name = some r → (Assoc.keys r.importAliases).Nodup

/-- Neither tree has anything under the reserved key of its root. -/
def RootsFree (i : Index) : Prop :=
  Assoc.get? bucketKey i.classPurposes.members = none ∧
    Assoc.get? bucketKey i.methodPurposes.members = none

theorem grown_empty : ({} : Index).Grown :=
  ⟨PurposeTree.planted_empty, PurposeTree.planted_empty⟩

theorem built_empty : ({} : Index).Built :=
  ⟨grown_empty, ⟨(fun _ _ h => nomatch h), (fun _ _ h => nomatch h)⟩, fun _ _ h => nomatch h⟩

theorem addClass_index (i : Index) (r : ClassRecord) (tags : List String) :
    (i.addClass r tags).index =
      { i with
        classPurposes := (i.classPurposes.registerAll r.qualifiedName tags).1
        classes := if (i.classPurposes.registerAll r.qualifiedName tags).2.2 = none
          then i.classes.insert r.qualifiedName r else i.classes } := by
  unfold addClass
  dsimp only
  cases (i.classPurposes.registerAll r.qualifiedName tags).2.2 <;> simp

theorem addMethod_index (i : Index) (r : MethodRecord) (tags : List String) :
    (i.addMethod r tags).index =
      { i with
        methodPurposes := (i.methodPurposes.registerAll r.qualifiedName tags).1
        methods := if (i.methodPurposes.registerAll r.qualifiedName tags).2.2 = none
          then i.methods.insert r.qualifiedName r else i.methods } := by
  unfold addMethod
  dsimp only
  cases (i.methodPurposes.registerAll r.qualifiedName tags).2.2 <;> simp

theorem get?_insert_if {α : Type} {P : String → α → Prop} {t : Table α}
    (h : ∀ name r, t.get? name = some r → P name r) {key : String} {value : α}
    (hnew : P key value) (c : Prop) [Decidable c] (name : String) (r : α)
    (hr : (if c then t.insert key value else t).get? name = some r) : P name r := by
  split at hr
  · rw [Table.get?_insert] at hr
    split at hr
    · rename_i heq
      cases hr
      exact heq ▸ hnew
    · exact h name r hr
  · exact h name r hr

theorem Grown.apply {i : Index} (h : i.Grown) (c : Call) : (c.apply i).Grown := by
  cases c with
  | addClass r tags =>
      rw [Call.apply, addClass_index]
      exact ⟨(PurposeTree.registerAll_planted h.classTree _ tags).1, h.methodTree⟩
  | addMethod r tags =>
      rw [Call.apply, addMethod_index]
      exact ⟨h.classTree, (PurposeTree.registerAll_planted h.methodTree _ tags).1⟩

theorem Grown.afterCalls {i : Index} (h : i.Grown) (calls : List Call) :
    (afterCalls calls i).Grown := by
  induction calls generalizing i with
  | nil => exact h
  | cons c calls ih => exact ih (h.apply c)

theorem Built.apply {i : Index} (h : i.Built) {c : Call} (hc : c.Valid) : (c.apply i).Built := by
  have hgrown : (c.apply i).Grown := h.toGrown.apply c
  cases c with
  | addClass r tags =>
      rw [Call.apply, addClass_index] at hgrown ⊢
      exact ⟨hgrown, ⟨get?_insert_if h.filed.classes rfl _, h.filed.methods⟩,
        get?_insert_if h.aliases (show (Assoc.keys r.importAliases).Nodup from hc) _⟩
  | addMethod r tags =>
      rw [Call.apply, addMethod_index] at hgrown ⊢
      exact ⟨hgrown, ⟨h.filed.classes, get?_insert_if h.filed.methods rfl _⟩, h.aliases⟩

theorem rootsFree_apply {i : Index} (h : i.Built) (c : Call) :
    (c.apply i).RootsFree ↔ i.RootsFree ∧ ∀ tag ∈ c.attempted i, ¬Reserved tag := by
  have free {ms ms' : List (String × Json)} {p : Prop}
      (hsome : (Assoc.get? bucketKey ms').isSome ↔ (Assoc.get? bucketKey ms).isSome ∨ p) :
      Assoc.get? bucketKey ms' = none ↔ Assoc.get? bucketKey ms = none ∧ ¬p := by
    rw [← Option.not_isSome_iff_eq_none, hsome, not_or, Option.not_isSome_iff_eq_none]
  cases c with
  | addClass r tags =>
      have htree := PurposeTree.registerAll_planted h.classTree r.qualifiedName tags
      rw [Call.apply, addClass_index, RootsFree, RootsFree, free htree.2.2, Call.attempted]
      simp only [not_exists, not_and]
      exact and_right_comm
  | addMethod r tags =>
      have htree := PurposeTree.registerAll_planted h.methodTree r.qualifiedName tags
      rw [Call.apply, addMethod_index, RootsFree, RootsFree, free htree.2.2, Call.attempted]
      simp only [not_exists, not_and]
      exact and_assoc.symm

/-- Calls build an index of which the invariant holds, and its trees have free roots just if no tag
that the calls come to begins with the reserved key. -/
theorem built_afterCalls {calls : List Call} (hcalls : ∀ c ∈ calls, c.Valid) {i : Index}
    (h : i.Built) :
    (afterCalls calls i).Built ∧
      ((afterCalls calls i).RootsFree ↔
        i.RootsFree ∧ ∀ tag ∈ attemptedTags calls i, ¬Reserved tag) := by
  induction calls generalizing i with
  | nil => simp [afterCalls, attemptedTags, h]
  | cons c calls ih =>
      obtain ⟨hbuilt, hfree⟩ :=
        ih (fun x hx => hcalls x (by simp [hx])) (h.apply (hcalls c (by simp)))
      refine ⟨hbuilt, hfree.trans ?_⟩
      rw [rootsFree_apply h, attemptedTags, List.forall_mem_append, and_assoc]

end Index
end Exposure
