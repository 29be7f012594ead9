import Exposure.Json.Basic
import Exposure.Proofs.Table

/-!
Members of objects: induction over them and over the objects among their values at any depth,
objects without repeated keys, and equality that does not count the order of members. Putting a
value under a key leaves an object without repeated keys; an object equals another just if each
member has an equal one under its key, and a value without numbers equals itself.
-/
namespace Exposure.Json

@[elab_as_elim]
theorem members_induction {motive : List (String × Json) → Prop} (nil : motive [])
    (object : ∀ key inner rest, motive inner → motive rest →
      motive ((key, .object inner) :: rest))
    (other : ∀ key value rest, value.members? = none → motive rest →
      motive ((key, value) :: rest)) :
    ∀ ms, motive ms
  | [] => nil
  | (key, .object inner) :: rest =>
      object key inner rest (members_induction nil object other inner)
        (members_induction nil object other rest)
  | (key, .null) :: rest =>
      other key .null rest rfl (members_induction nil object other rest)
  | (key, .bool b) :: rest =>
      other key (.bool b) rest rfl (members_induction nil object other rest)
  | (key, .int n) :: rest =>
      other key (.int n) rest rfl (members_induction nil object other rest)
  | (key, .float x) :: rest =>
      other key (.float x) rest rfl (members_induction nil object other rest)
  | (key, .string s) :: rest =>
      other key (.string s) rest rfl (members_induction nil object other rest)
  | (key, .array items) :: rest =>
      other key (.array items) rest rfl (members_induction nil object other rest)

/-- No object lists a key twice, neither this one nor one among its values at any depth. -/
inductive DistinctMembers : List (String × Json) → Prop where
  | nil : DistinctMembers []
  | cons {key : String} {value : Json} {rest : List (String × Json)} :
      key ∉ Assoc.keys rest → (∀ inner, value = .object inner → DistinctMembers inner) →
      DistinctMembers rest → DistinctMembers ((key, value) :: rest)

/-- The value is no object that repeats a key at some depth. -/
def Distinct (v : Json) : Prop := ∀ inner, v = .object inner → DistinctMembers inner

theorem DistinctMembers.nodup_keys {ms : List (String × Json)} (h : DistinctMembers ms) :
    (Assoc.keys ms).Nodup := by
  induction h with
  | nil => exact List.nodup_nil
  | cons hk _ _ _ ih => exact List.nodup_cons.2 ⟨hk, ih⟩

theorem DistinctMembers.get? {ms : List (String × Json)} (h : DistinctMembers ms) {key : String}
    {v : Json} (hv : Assoc.get? key ms = some v) : Distinct v := by
  induction h with
  | nil => cases hv
  | @cons k _ _ _ hd _ _ ih =>
      by_cases hk : k = key
      · rw [Assoc.get?, if_pos hk] at hv
        cases hv
        exact hd
      · rw [Assoc.get?, if_neg hk] at hv
        exact ih hv

theorem DistinctMembers.put {ms : List (String × Json)} (h : DistinctMembers ms) (key : String)
    {v : Json} (hv : Distinct v) : DistinctMembers (Assoc.put key v ms) := by
  induction h with
  | nil => exact .cons (by simp [Assoc.keys]) hv .nil
  | @cons k _ rest hk hd hr _ ih =>
      by_cases hkey : k = key
      · rw [Assoc.put, if_pos hkey]
        exact .cons hk hv hr
      · rw [Assoc.put, if_neg hkey]
        refine .cons ?_ hd ih
        rw [Assoc.keys_put]
        split
        · exact hk
        · simp [hk, hkey]

theorem distinct_array (items : List Json) : Distinct (.array items) := fun _ h => by cases h

theorem sameMembers_iff {ms ns : List (String × Json)} :
    sameMembers ms ns = true ↔
      ∀ m ∈ ms, ∃ w, Assoc.get? m.1 ns = some w ∧ same m.2 w = true := by
  induction ms with
  | nil => simp [sameMembers]
  | cons m ms ih =>
      rw [sameMembers, Bool.and_eq_true, ih, List.forall_mem_cons]
      cases Assoc.get? m.1 ns <;> simp

theorem same_object_iff {ms ns : List (String × Json)} :
    same (.object ms) (.object ns) = true ↔ ms.length = ns.length ∧
      ∀ m ∈ ms, ∃ w, Assoc.get? m.1 ns = some w ∧ same m.2 w = true := by
  rw [same, Bool.and_eq_true, beq_iff_eq, sameMembers_iff]

theorem same_strings (ss : List String) : same (.strings ss) (.strings ss) = true := by
  rw [strings, same]
  induction ss with
  | nil => rfl
  | cons s ss ih => simp [sameItems, same, sameScalar, ih]

/-- An object without repeated keys equals itself if its values do. -/
theorem same_object_self {ms : List (String × Json)} (hn : (Assoc.keys ms).Nodup)
    (h : ∀ m ∈ ms, same m.2 m.2 = true) : same (.object ms) (.object ms) = true :=
  same_object_iff.2 ⟨rfl, fun m hm => ⟨m.2, Assoc.get?_of_mem hn hm, h m hm⟩⟩

theorem same_strings_iff {ss ts : List String} :
    same (.strings ss) (.strings ts) = true ↔ ss = ts := by
  rw [strings, strings, same]
  induction ss generalizing ts with
  | nil => cases ts <;> simp [sameItems]
  | cons s ss ih => cases ts <;> simp [sameItems, same, sameScalar, ih]

/-- Objects without repeated keys are equal just if under each key they have equal values, or both
none. -/
theorem same_object_iff_get? {ms ns : List (String × Json)} (hm : (Assoc.keys ms).Nodup)
    (hn : (Assoc.keys ns).Nodup) :
    same (.object ms) (.object ns) = true ↔ ∀ key,
      Option.Rel (fun v w => same v w = true) (Assoc.get? key ms) (Assoc.get? key ns) := by
  rw [same_object_iff, Assoc.forall_rel_get?_iff hm hn]

end Exposure.Json
