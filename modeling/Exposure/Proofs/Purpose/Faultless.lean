import Exposure.Proofs.Purpose.Normal
import Exposure.Proofs.Purpose.Selection

/-!
Purpose trees without a fault, from wherever they come. Once their buckets are arrays they have a
shape, so that every search of them succeeds. A registration leaves none behind, also one that is
blocked on the way; and a name it registers stands in the bucket at its address.
-/
namespace Exposure.PurposeTree

/-- A tree that was read is in its normal form, and nothing stands in the way of reading it. -/
theorem normal_of_ofJson {v : Json} {t : PurposeTree} (h : ofJson v = .ok t) :
    t.normal = t ∧ memberFault? t.members = none := by
  cases v with
  | object ms =>
      cases hfault : memberFault? ms with
      | some e => simp [ofJson, hfault] at h
      | none =>
          obtain rfl : ⟨normalMembers ms⟩ = t := by simpa [ofJson, hfault] using h
          exact ⟨by rw [normal, normalMembers_normalMembers],
            (memberFault?_normalMembers ms).trans hfault⟩
  | null | bool _ | int _ | float _ | string _ | array _ => cases h

theorem hasBucket_of_faultless {ms : List (String × Json)} (h : memberFault? ms = none) :
    HasBucket (fun _ => True) (normalMembers ms) := by
  intro v hv
  simp only [get?_normalMembers, if_true, Option.map_eq_some_iff] at hv
  obtain ⟨bucket, hbucket, rfl⟩ := hv
  have hitems := memberFault?_eq_none_iff.1 h _ (Assoc.mem_of_get? hbucket)
  rw [if_pos rfl] at hitems
  obtain ⟨items, hitems⟩ := hitems
  exact ⟨items, by rw [normalBucket, hitems], fun _ _ => trivial⟩

/-- Members without a fault have a shape once their buckets are arrays. -/
theorem shaped_of_faultless {ms : List (String × Json)} (h : memberFault? ms = none) :
    Shaped (fun _ => True) (fun _ => True) (normalMembers ms) := by
  induction ms using Json.members_induction with
  | nil =>
      rw [normalMembers]
      exact .nil
  | object key inner rest ihi ihr =>
      rw [memberFault?, Option.or_eq_none_iff] at h
      rw [normalMembers]
      by_cases hk : key = bucketKey
      · subst hk
        exact .bucket (ihr h.2)
      · rw [if_neg hk, nodeFault?] at h
        rw [if_neg hk, normalNode]
        exact .node hk trivial (hasBucket_of_faultless h.1) (ihi h.1) (ihr h.2)
  | other key value rest hv ihr =>
      rw [memberFault?, Option.or_eq_none_iff] at h
      rw [normalMembers]
      by_cases hk : key = bucketKey
      · subst hk
        exact .bucket (ihr h.2)
      · rw [if_neg hk] at h
        cases value with
        | object ms => cases hv
        | null | bool _ | int _ | float _ | string _ | array _ => cases h.1

/-- A tree without faults can be searched. -/
theorem search_of_faultless {t : PurposeTree} (h : memberFault? t.members = none)
    (pattern : String) (ancestors : Bool) : ∃ hits, t.search pattern ancestors = .ok hits := by
  have hshaped : Shaped (fun _ => True) (fun _ => True) t.normal.members := shaped_of_faultless h
  obtain ⟨hits, hsearch, -⟩ := entry_of_search hshaped pattern ancestors
  exact ⟨hits, (search_normal t pattern ancestors).symm.trans hsearch⟩

theorem memberFault?_put {ms : List (String × Json)} (h : memberFault? ms = none) {key : String}
    {v : Json} (hv : if key = bucketKey then ∃ items, bucketItems v = .ok items
      else nodeFault? v = none) : memberFault? (Assoc.put key v ms) = none := by
  refine memberFault?_eq_none_iff.2 fun m hm => ?_
  rcases Assoc.mem_put hm with rfl | hm
  · exact hv
  · exact memberFault?_eq_none_iff.1 h m hm

theorem memberFault?_putNode {ms inner : List (String × Json)} (h : memberFault? ms = none)
    (key : String) (hi : key ≠ bucketKey → memberFault? inner = none) :
    memberFault? (Assoc.put key (.object inner) ms) = none := by
  refine memberFault?_put h ?_
  split
  · exact ⟨_, rfl⟩
  · rename_i hk
    exact hi hk

theorem memberFault?_childFor {ms : List (String × Json)} (h : memberFault? ms = none)
    {t : String} (ht : t ≠ bucketKey) (ts : List String) :
    memberFault? (childFor t ts ms) = none := by
  have hfresh : memberFault? (freshMembers ts) = none := by cases ts <;> rfl
  unfold childFor
  split
  · rename_i inner hget
    have hnode := memberFault?_eq_none_iff.1 h _ (Assoc.mem_of_get? hget)
    rwa [if_neg ht] at hnode
  · exact hfresh

theorem memberFault?_appendName {ms ms' : List (String × Json)} (h : memberFault? ms = none)
    {name : String} (happend : appendName name ms = .ok ms') : memberFault? ms' = none := by
  unfold appendName at happend
  split at happend
  · cases happend
    exact memberFault?_put h ⟨_, rfl⟩
  · cases happend
    exact memberFault?_put h ⟨_, rfl⟩
  · cases happend

/-- No registration leaves a fault where there was none. -/
theorem memberFault?_registerBelow (name : String) (p : List String) {ms : List (String × Json)}
    (h : memberFault? ms = none) : memberFault? (registerBelow name p ms).1 = none := by
  induction p generalizing ms with
  | nil =>
      rw [registerBelow]
      split
      · rename_i happend
        exact memberFault?_appendName h happend
      · exact h
  | cons t ts ih =>
      by_cases hobject : ∀ v, Assoc.get? t ms = some v → ∃ inner, v = .object inner
      · rw [registerBelow_cons_of_object hobject]
        exact memberFault?_putNode h t fun ht => ih (memberFault?_childFor h ht ts)
      · rw [registerBelow_cons_of_other hobject]
        exact h

theorem mem_bucketOf_appendName {ms ms' : List (String × Json)} {name : String}
    (happend : appendName name ms = .ok ms') : .string name ∈ bucketOf ms' := by
  unfold appendName at happend
  split at happend <;> cases happend <;> simp [bucketOf, Assoc.get?_put]

/-- A registration that is not blocked puts the name into the bucket at its address. -/
theorem mem_namesAt_registerBelow {name : String} {p : List String} {ms : List (String × Json)}
    (h : (registerBelow name p ms).2 = none) :
    .string name ∈ namesAt p (registerBelow name p ms).1 := by
  induction p generalizing ms with
  | nil =>
      rw [registerBelow] at h ⊢
      split
      · rename_i happend
        exact mem_bucketOf_appendName happend
      · rename_i hfault
        rw [hfault] at h
        cases h
  | cons t ts ih =>
      by_cases hobject : ∀ v, Assoc.get? t ms = some v → ∃ inner, v = .object inner
      · rw [registerBelow_cons_of_object hobject] at h ⊢
        rw [namesAt_cons (by rw [Assoc.get?_put, if_pos rfl])]
        exact ih h
      · rw [registerBelow_cons_of_other hobject] at h
        cases h

end Exposure.PurposeTree
