import Exposure.Table
import Mathlib.Data.List.Perm.Basic

/-!
Tables as finite maps. Two tables without repeated keys hold related values just if under each key
they have related values, or both none; that one is no longer than the other stands for the keys
that are not asked for.
-/
namespace Exposure

namespace Assoc

variable {α β : Type} {m : List (String × α)} {n : List (String × β)} {related : α → β → Prop}

/-- Of two lists with equally many keys, one with all the keys of the other has no more. -/
theorem keys_perm (hm : (keys m).Nodup) (hlength : m.length = n.length)
    (h : ∀ k ∈ keys m, k ∈ keys n) : (keys m).Perm (keys n) :=
  (List.subperm_of_subset hm h).perm_of_length_le (by simp [keys, hlength])

theorem forall_rel_get?_iff (hm : (keys m).Nodup) (hn : (keys n).Nodup) :
    (∀ key, Option.Rel related (get? key m) (get? key n)) ↔
      m.length = n.length ∧ ∀ p ∈ m, ∃ w, get? p.1 n = some w ∧ related p.2 w := by
  constructor
  · intro h
    have hperm : (keys m).Perm (keys n) := by
      refine (List.perm_ext_iff_of_nodup hm hn).2 fun key => ?_
      have hrel := h key
      rw [mem_keys_iff_get?, mem_keys_iff_get?]
      generalize get? key m = v, get? key n = w at hrel
      cases hrel <;> simp
    refine ⟨by simpa [keys] using hperm.length_eq, fun p hp => ?_⟩
    have hrel := h p.1
    rw [get?_of_mem hm hp] at hrel
    generalize get? p.1 n = w at hrel
    cases hrel with
    | some hvalue => exact ⟨_, rfl, hvalue⟩
  · rintro ⟨hlength, hall⟩ key
    -- Neither list has more keys than the other, so a key that the first lacks the second lacks too.
    have hperm : (keys m).Perm (keys n) := by
      refine keys_perm hm hlength fun k hk => ?_
      obtain ⟨v, hv⟩ := mem_keys_iff_get?.1 hk
      obtain ⟨w, hw, -⟩ := hall _ (mem_of_get? hv)
      exact mem_keys_iff_get?.2 ⟨w, hw⟩
    cases hv : get? key m with
    | none =>
        have hkey : key ∉ keys n := by
          rw [← hperm.mem_iff, mem_keys_iff_get?, hv]
          rintro ⟨v, h⟩
          cases h
        rw [get?_eq_none hkey]
        exact .none
    | some v =>
        obtain ⟨w, hw, hvalue⟩ := hall _ (mem_of_get? hv)
        rw [hw]
        exact .some hvalue

theorem rel_eq_iff {x y : Option α} : Option.Rel Eq x y ↔ x = y := by
  cases x <;> cases y <;> simp

theorem forall_get?_eq_iff {n : List (String × α)} (hm : (keys m).Nodup) (hn : (keys n).Nodup) :
    (∀ key, get? key m = get? key n) ↔
      m.length = n.length ∧ ∀ p ∈ m, get? p.1 n = some p.2 := by
  have hrel : (∀ key, Option.Rel Eq (get? key m) (get? key n)) ↔
      m.length = n.length ∧ ∀ p ∈ m, ∃ w, get? p.1 n = some w ∧ p.2 = w :=
    forall_rel_get?_iff hm hn
  simpa only [rel_eq_iff, exists_eq_right'] using hrel

end Assoc

namespace Table

variable {α : Type} {s t : Table α} {name : String}

/-- Only one of the tables has the name, or they have values under it that are not the same. -/
def DiffersAt (same : α → α → Prop) (s t : Table α) (name : String) : Prop :=
  ¬Option.Rel same (s.get? name) (t.get? name)

theorem differsAt_comm {same : α → α → Prop} (hsame : ∀ r u, same r u → same u r) :
    s.DiffersAt same t name ↔ t.DiffersAt same s name := by
  have hflip {s t : Table α} (h : Option.Rel same (s.get? name) (t.get? name)) :
      Option.Rel same (t.get? name) (s.get? name) := by
    generalize s.get? name = x, t.get? name = y at h ⊢
    cases h with
    | some hvalue => exact .some (hsame _ _ hvalue)
    | none => exact .none
  exact not_congr ⟨hflip, hflip⟩

theorem differsAt_congr {same same' : α → α → Prop}
    (h : ∀ r u, s.get? name = some r → t.get? name = some u → (same r u ↔ same' r u)) :
    s.DiffersAt same t name ↔ s.DiffersAt same' t name := by
  rw [DiffersAt, DiffersAt]
  cases hs : s.get? name with
  | none => cases t.get? name <;> simp
  | some r =>
      cases ht : t.get? name with
      | none => simp
      | some u => simp [h r u hs ht]

/-- Tables are equivalent just if they differ nowhere. -/
theorem equivBy_iff {same : α → α → Bool} :
    s.equivBy same t = true ↔ ∀ name, ¬s.DiffersAt (fun r u => same r u = true) t name := by
  have hrel : (∀ name, Option.Rel (fun r u => same r u = true) (s.get? name) (t.get? name)) ↔
      s.size = t.size ∧ ∀ p ∈ s.entries, ∃ w, t.get? p.1 = some w ∧ same p.2 w = true :=
    Assoc.forall_rel_get?_iff s.keys_nodup t.keys_nodup
  simp only [DiffersAt, not_not, hrel, equivBy, Bool.and_eq_true, beq_iff_eq, List.all_eq_true]
  refine and_congr_right fun _ => forall₂_congr fun p _ => ?_
  cases t.get? p.1 <;> simp

end Table
end Exposure
