import Exposure.Proofs.Json.Members
import Exposure.Purpose.Tree

/-!
The document form of a purpose tree is a normal form. Bringing the members into it keeps keys and
order, changes nothing the second time, and neither mends nor adds a fault; so a tree that can be
read at all reads back as its own normal form. A search sees no difference.
-/
namespace Exposure.PurposeTree

/-- The tree with every bucket an array. -/
def normal (t : PurposeTree) : PurposeTree := ⟨normalMembers t.members⟩

theorem bucketItems_normalBucket (v : Json) : bucketItems (normalBucket v) = bucketItems v := by
  cases v <;> rfl

theorem normalBucket_normalBucket (v : Json) : normalBucket (normalBucket v) = normalBucket v := by
  cases v <;> rfl

theorem normalNode_eq_self {v : Json} (h : v.members? = none) : normalNode v = v := by
  cases v with
  | object ms => cases h
  | null | bool _ | int _ | float _ | string _ | array _ => rfl

theorem normalMembers_eq_map (ms : List (String × Json)) :
    normalMembers ms =
      ms.map fun m => (m.1, if m.1 = bucketKey then normalBucket m.2 else normalNode m.2) := by
  induction ms with
  | nil => rw [normalMembers, List.map_nil]
  | cons m ms ih => rw [normalMembers, List.map_cons, ih]

theorem get?_normalMembers (key : String) (ms : List (String × Json)) :
    Assoc.get? key (normalMembers ms) =
      (Assoc.get? key ms).map fun v =>
        if key = bucketKey then normalBucket v else normalNode v := by
  rw [normalMembers_eq_map,
    Assoc.get?_map (fun k v => if k = bucketKey then normalBucket v else normalNode v)]

theorem normalMembers_normalMembers (ms : List (String × Json)) :
    normalMembers (normalMembers ms) = normalMembers ms := by
  induction ms using Json.members_induction with
  | nil => simp only [normalMembers]
  | object key inner rest ihi ihr =>
      by_cases hk : key = bucketKey
      · simp only [normalMembers, hk, if_true, normalBucket_normalBucket, ihr]
      · simp only [normalMembers, hk, if_false, normalNode, ihi, ihr]
  | other key value rest hv ihr =>
      by_cases hk : key = bucketKey
      · simp only [normalMembers, hk, if_true, normalBucket_normalBucket, ihr]
      · simp only [normalMembers, hk, if_false, normalNode_eq_self hv, ihr]

theorem memberFault?_normalMembers (ms : List (String × Json)) :
    memberFault? (normalMembers ms) = memberFault? ms := by
  induction ms using Json.members_induction with
  | nil => rw [normalMembers]
  | object key inner rest ihi ihr =>
      by_cases hk : key = bucketKey
      · simp only [normalMembers, memberFault?, hk, if_true, bucketItems_normalBucket, ihr]
      · simp only [normalMembers, memberFault?, hk, if_false, normalNode, nodeFault?, ihi, ihr]
  | other key value rest hv ihr =>
      by_cases hk : key = bucketKey
      · simp only [normalMembers, memberFault?, hk, if_true, bucketItems_normalBucket, ihr]
      · simp only [normalMembers, memberFault?, hk, if_false, normalNode_eq_self hv, ihr]

theorem ownEntries_normal (path : String) (inner : List (String × Json)) :
    ownEntries path (.object (normalMembers inner)) = ownEntries path (.object inner) := by
  simp only [ownEntries, get?_normalMembers, if_true]
  cases Assoc.get? bucketKey inner with
  | none => rfl
  | some v => simp only [Option.map_some, bucketItems_normalBucket]

theorem searchMembers_normalMembers (pattern : List String) (path : String)
    (passing ancestors : Bool) (ms : List (String × Json)) :
    searchMembers pattern path passing ancestors (normalMembers ms) =
      searchMembers pattern path passing ancestors ms := by
  induction ms using Json.members_induction generalizing pattern path passing with
  | nil => rw [normalMembers]
  | object key inner rest ihi ihr =>
      by_cases hk : key = bucketKey
      · simp only [normalMembers, searchMembers, hk, ne_eq, not_true_eq_false, false_and, if_false,
          ihr]
      · simp only [normalMembers, searchMembers, hk, if_false, normalNode, ownEntries_normal,
          searchNode, ihi, ihr]
  | other key value rest hv ihr =>
      by_cases hk : key = bucketKey
      · simp only [normalMembers, searchMembers, hk, ne_eq, not_true_eq_false, false_and, if_false,
          ihr]
      · simp only [normalMembers, searchMembers, hk, if_false, normalNode_eq_self hv, ihr]

/-- A search finds the same in the normal form of a tree, and in the same order, or fails alike. -/
theorem search_normal (t : PurposeTree) (pattern : String) (ancestors : Bool) :
    t.normal.search pattern ancestors = t.search pattern ancestors :=
  searchMembers_normalMembers _ _ _ _ _

/-- Nothing stands in the way of reading members as a tree just if each of them can be read. -/
theorem memberFault?_eq_none_iff {ms : List (String × Json)} :
    memberFault? ms = none ↔ ∀ m ∈ ms,
      if m.1 = bucketKey then ∃ items, bucketItems m.2 = .ok items else nodeFault? m.2 = none := by
  induction ms with
  | nil => simp [memberFault?]
  | cons m ms ih =>
      rw [memberFault?, List.forall_mem_cons, ← ih, Option.or_eq_none_iff]
      by_cases hk : m.1 = bucketKey
      · cases bucketItems m.2 <;> simp [hk]
      · simp only [hk, if_false]

theorem toJson_normal (t : PurposeTree) : t.normal.toJson = t.toJson := by
  simp only [toJson, normal, normalMembers_normalMembers]

/-- A tree without faults reads back from its document as its normal form. -/
theorem ofJson_toJson {t : PurposeTree} (h : memberFault? t.members = none) :
    ofJson t.toJson = .ok t.normal := by
  simp only [toJson, ofJson, memberFault?_normalMembers, h, normalMembers_normalMembers, normal]

end Exposure.PurposeTree
