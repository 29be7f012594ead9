import Exposure.Proofs.Purpose.Selection

/-!
A purpose tree as a log of registrations. A registration adds its name to the end of the names at
its address and touches no others, so the names at an address are those registered there, in
order; and a search gives the logged registrations whose addresses the pattern selects, gathered
by address.
-/
namespace Exposure.PurposeTree

variable {token : String → Prop} {entry : Json → Prop}

theorem namesAt_fresh {q : List String} (hq : bucketKey ∉ q) (ts : List String) :
    namesAt q (freshMembers ts) = [] := by
  cases q with
  | nil => cases ts <;> rfl
  | cons u us =>
      have hu : bucketKey ≠ u := fun e => hq (by simp [e])
      cases ts <;> simp [freshMembers, namesAt, Assoc.get?, hu]

theorem namesAt_childFor {node : List (String × Json)} (hs : Shaped token entry node) {t : String}
    (ht : t ≠ bucketKey) {q : List String} (hq : bucketKey ∉ q) (ts : List String) :
    namesAt q (childFor t ts node) = namesAt (t :: q) node := by
  cases hc : Assoc.get? t node with
  | none => simp only [childFor, namesAt, hc, namesAt_fresh hq]
  | some v =>
      obtain ⟨child, rfl, -⟩ := hs.get? ht hc
      simp only [childFor, namesAt, hc]

/-- What a registration changes: the names at its address, which get one more at the end. -/
theorem namesAt_registerBelow (name : String) {p p' : List String} (hp : bucketKey ∉ p)
    (hp' : bucketKey ∉ p') {node : List (String × Json)} (hb : HasBucket entry node)
    (hs : Shaped token entry node) :
    namesAt p' (registerBelow name p node).1 =
      if p' = p then namesAt p node ++ [.string name] else namesAt p' node := by
  induction p generalizing node p' with
  | nil =>
      simp only [registerBelow, appendName_eq hb]
      cases p' with
      | nil => simp [namesAt, bucketOf, Assoc.get?_put]
      | cons t ts =>
          have ht : bucketKey ≠ t := fun e => hp' (by simp [e])
          simp [namesAt, Assoc.get?_put, ht]
  | cons t ts ih =>
      have ht : t ≠ bucketKey := fun e => hp (by simp [e])
      rw [registerBelow_cons hs ht]
      cases p' with
      | nil => simp [namesAt, bucketOf_put_of_ne ht]
      | cons u us =>
          have hts : bucketKey ∉ ts := fun h => hp (by simp [h])
          have hus : bucketKey ∉ us := fun h => hp' (by simp [h])
          by_cases hu : t = u
          · subst hu
            rw [namesAt_cons (by rw [Assoc.get?_put, if_pos rfl]),
              ih hts hus (hasBucket_childFor hs ht ts) (shaped_childFor hs ht ts),
              namesAt_childFor hs ht hts, namesAt_childFor hs ht hus]
            simp only [List.cons.injEq, true_and]
          · simp [namesAt, Assoc.get?_put, hu, Ne.symm hu]

theorem distinct_childFor {node : List (String × Json)} (hd : Json.DistinctMembers node)
    (t : String) (ts : List String) : Json.DistinctMembers (childFor t ts node) := by
  have hfresh : Json.DistinctMembers (freshMembers ts) := by
    cases ts with
    | nil => exact .nil
    | cons u us => exact .cons (by simp [Assoc.keys]) (Json.distinct_array []) .nil
  unfold childFor
  split
  · rename_i hc
    exact hd.get? hc _ rfl
  · exact hfresh

theorem registerBelow_distinct (name : String) {p : List String} (hp : bucketKey ∉ p)
    {node : List (String × Json)} (hb : HasBucket entry node) (hs : Shaped token entry node)
    (hd : Json.DistinctMembers node) : Json.DistinctMembers (registerBelow name p node).1 := by
  induction p generalizing node with
  | nil =>
      simp only [registerBelow, appendName_eq hb]
      exact hd.put _ (Json.distinct_array _)
  | cons t ts ih =>
      have ht : t ≠ bucketKey := fun e => hp (by simp [e])
      rw [registerBelow_cons hs ht]
      refine hd.put _ fun inner hinner => ?_
      cases hinner
      exact ih (fun h => hp (by simp [h])) (hasBucket_childFor hs ht ts)
        (shaped_childFor hs ht ts) (distinct_childFor hd t ts)

/-- A tree that registrations at proper addresses have built, or one that looks like it: all
buckets hold names, none stands at the root, and no key is repeated. -/
structure Regular (token : String → Prop) (entry : Json → Prop) (t : PurposeTree) : Prop where
  noRootBucket : Assoc.get? bucketKey t.members = none
  shaped : Shaped token entry t.members
  distinct : Json.DistinctMembers t.members

theorem regular_empty : Regular token entry {} := ⟨rfl, .nil, .nil⟩

theorem Regular.hasBucket {t : PurposeTree} (h : Regular token entry t) :
    HasBucket entry t.members := by
  intro v hv
  rw [h.noRootBucket] at hv
  cases hv

theorem Regular.mono {token' : String → Prop} {entry' : Json → Prop}
    (ht : ∀ t, token t → token' t) (he : ∀ e, entry e → entry' e) {t : PurposeTree}
    (h : Regular token entry t) : Regular token' entry' t :=
  ⟨h.noRootBucket, h.shaped.mono ht he, h.distinct⟩

theorem register_of_address_nil {tag : String} (h : Purpose.address tag = []) (name : String)
    (t : PurposeTree) : t.register tag name = (t, some (.noTokens tag)) := by
  simp only [register, h]

theorem register_of_address_ne_nil {tag : String} (h : Purpose.address tag ≠ []) (name : String)
    (t : PurposeTree) :
    t.register tag name = (⟨(registerBelow name (Purpose.address tag) t.members).1⟩,
      (registerBelow name (Purpose.address tag) t.members).2.map .blocked) := by
  unfold register
  split
  · rename_i hnil
    exact absurd hnil h
  · rfl

theorem regular_registerBelow {t : PurposeTree} (h : Regular token entry t) {name : String}
    (hname : entry (.string name)) {p : List String} (hne : p ≠ [])
    (hp : ∀ x ∈ p, x ≠ bucketKey ∧ token x) :
    Regular token entry ⟨(registerBelow name p t.members).1⟩ := by
  have hkey : bucketKey ∉ p := fun hmem => (hp _ hmem).1 rfl
  obtain ⟨-, -, hs⟩ := registerBelow_shaped hname hp h.hasBucket h.shaped
  refine ⟨?_, hs, registerBelow_distinct name hkey h.hasBucket h.shaped h.distinct⟩
  obtain ⟨x, q, rfl⟩ := List.exists_cons_of_ne_nil hne
  have hx : x ≠ bucketKey := (hp x (by simp)).1
  simp only [registerBelow_cons h.shaped hx, Assoc.get?_put, if_neg hx, h.noRootBucket]

/-- A registration at an address without the reserved key succeeds and keeps the tree regular. -/
theorem regular_register {t : PurposeTree} (h : Regular token entry t) {tag name : String}
    (hname : entry (.string name)) (hne : Purpose.address tag ≠ [])
    (hp : ∀ x ∈ Purpose.address tag, x ≠ bucketKey ∧ token x) :
    (t.register tag name).2 = none ∧ Regular token entry (t.register tag name).1 := by
  have hnone := (registerBelow_shaped hname hp h.hasBucket h.shaped).1
  rw [register_of_address_ne_nil hne, hnone, Option.map_none]
  exact ⟨rfl, regular_registerBelow h hname hne hp⟩

end Exposure.PurposeTree
