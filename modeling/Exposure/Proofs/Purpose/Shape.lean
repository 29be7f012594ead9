import Exposure.Purpose.Tree

/-!
The shape of purpose trees: what their tokens and the entries of their buckets are like, at every
depth. Registration keeps a shape that its own tokens and name have, and never fails on a tree
that has one.
-/
namespace Exposure.PurposeTree

variable {token : String → Prop} {entry : Json → Prop}

/-- A node with these members has no bucket, or an array of entries with the property. -/
def HasBucket (entry : Json → Prop) (ms : List (String × Json)) : Prop :=
  ∀ v, Assoc.get? bucketKey ms = some v → ∃ es, v = .array es ∧ ∀ e ∈ es, entry e

/-- Every node below a node with these members has its place under a token with the property, and
a bucket of entries with the property. The node's own bucket is not spoken of. -/
inductive Shaped (token : String → Prop) (entry : Json → Prop) : List (String × Json) → Prop where
  | nil : Shaped token entry []
  | bucket {value : Json} {rest : List (String × Json)} :
      Shaped token entry rest → Shaped token entry ((bucketKey, value) :: rest)
  | node {key : String} {inner rest : List (String × Json)} :
      key ≠ bucketKey → token key → HasBucket entry inner → Shaped token entry inner →
      Shaped token entry rest → Shaped token entry ((key, .object inner) :: rest)

theorem HasBucket.mono {entry' : Json → Prop} (he : ∀ e, entry e → entry' e)
    {ms : List (String × Json)} (h : HasBucket entry ms) : HasBucket entry' ms := by
  intro v hv
  obtain ⟨es, rfl, hes⟩ := h v hv
  exact ⟨es, rfl, fun e hmem => he e (hes e hmem)⟩

theorem Shaped.mono {token' : String → Prop} {entry' : Json → Prop}
    (ht : ∀ t, token t → token' t) (he : ∀ e, entry e → entry' e) {ms : List (String × Json)}
    (h : Shaped token entry ms) : Shaped token' entry' ms := by
  induction h with
  | nil => exact .nil
  | bucket _ ih => exact .bucket ih
  | node hk hkt hb _ _ ihi ihr => exact .node hk (ht _ hkt) (hb.mono he) ihi ihr

theorem HasBucket.tail {key : String} (hk : key ≠ bucketKey) {v : Json}
    {rest : List (String × Json)} (h : HasBucket entry ((key, v) :: rest)) :
    HasBucket entry rest := by
  intro w hw
  exact h w (by rw [Assoc.get?, if_neg hk, hw])

theorem hasBucket_of_notMem {ms : List (String × Json)} (h : bucketKey ∉ Assoc.keys ms) :
    HasBucket entry ms := by
  intro v hv
  rw [Assoc.get?_eq_none h] at hv
  cases hv

theorem shaped_bucket_iff {v : Json} {rest : List (String × Json)} :
    Shaped token entry ((bucketKey, v) :: rest) ↔ Shaped token entry rest := by
  refine ⟨fun h => ?_, .bucket⟩
  cases h with
  | bucket hr => exact hr
  | node hk _ _ _ _ => exact absurd rfl hk

theorem shaped_node_iff {key : String} (hk : key ≠ bucketKey) {v : Json}
    {rest : List (String × Json)} :
    Shaped token entry ((key, v) :: rest) ↔
      (∃ inner, v = .object inner ∧ token key ∧ HasBucket entry inner ∧
        Shaped token entry inner) ∧ Shaped token entry rest := by
  constructor
  · intro h
    cases h with
    | bucket _ => exact absurd rfl hk
    | node _ ht hb hi hr => exact ⟨⟨_, rfl, ht, hb, hi⟩, hr⟩
  · rintro ⟨⟨inner, rfl, ht, hb, hi⟩, hr⟩
    exact .node hk ht hb hi hr

theorem hasBucket_put_of_ne {key : String} (hk : key ≠ bucketKey) (v : Json)
    {ms : List (String × Json)} (h : HasBucket entry ms) :
    HasBucket entry (Assoc.put key v ms) := by
  intro w hw
  rw [Assoc.get?_put, if_neg hk] at hw
  exact h w hw

theorem Shaped.get? {ms : List (String × Json)} (h : Shaped token entry ms) {key : String}
    (hk : key ≠ bucketKey) {v : Json} (hv : Assoc.get? key ms = some v) :
    ∃ inner, v = .object inner ∧ HasBucket entry inner ∧ Shaped token entry inner := by
  induction h with
  | nil => cases hv
  | bucket _ ih =>
      rw [Assoc.get?, if_neg (Ne.symm hk)] at hv
      exact ih hv
  | @node k inner rest _ _ hb hi _ _ ihr =>
      by_cases hkey : k = key
      · rw [Assoc.get?, if_pos hkey] at hv
        exact ⟨inner, (Option.some.inj hv).symm, hb, hi⟩
      · rw [Assoc.get?, if_neg hkey] at hv
        exact ihr hv

theorem Shaped.put {ms inner : List (String × Json)} (h : Shaped token entry ms) {key : String}
    (hk : key ≠ bucketKey) (hkt : token key) (hb : HasBucket entry inner)
    (hi : Shaped token entry inner) :
    Shaped token entry (Assoc.put key (.object inner) ms) := by
  induction h with
  | nil => exact .node hk hkt hb hi .nil
  | bucket _ ih =>
      rw [Assoc.put, if_neg (Ne.symm hk)]
      exact .bucket ih
  | @node k _ _ hk' hkt' hb' hi' hr' _ ihr =>
      by_cases hkey : k = key
      · subst hkey
        rw [Assoc.put, if_pos rfl]
        exact .node hk hkt hb hi hr'
      · rw [Assoc.put, if_neg hkey]
        exact .node hk' hkt' hb' hi' ihr

theorem Shaped.putBucket {ms : List (String × Json)} (h : Shaped token entry ms) (v : Json) :
    Shaped token entry (Assoc.put bucketKey v ms) := by
  induction h with
  | nil => exact .bucket .nil
  | bucket hr _ =>
      rw [Assoc.put, if_pos rfl]
      exact .bucket hr
  | node hk hkt hb hi _ _ ihr =>
      rw [Assoc.put, if_neg hk]
      exact .node hk hkt hb hi ihr

/-- The names in the bucket of a node with these members. -/
def bucketOf (ms : List (String × Json)) : List Json :=
  match Assoc.get? bucketKey ms with
  | some (.array names) => names
  | _ => []

theorem bucketOf_put_of_ne {key : String} (hk : key ≠ bucketKey) (v : Json)
    (ms : List (String × Json)) : bucketOf (Assoc.put key v ms) = bucketOf ms := by
  simp only [bucketOf, Assoc.get?_put, if_neg hk]

theorem appendName_eq {ms : List (String × Json)} (h : HasBucket entry ms) (name : String) :
    appendName name ms =
      .ok (Assoc.put bucketKey (.array (bucketOf ms ++ [.string name])) ms) := by
  cases hb : Assoc.get? bucketKey ms with
  | none => simp only [appendName, bucketOf, hb, List.nil_append]
  | some v =>
      obtain ⟨es, rfl, -⟩ := h v hb
      simp only [appendName, bucketOf, hb]

theorem mem_bucketOf {ms : List (String × Json)} (h : HasBucket entry ms) {e : Json}
    (he : e ∈ bucketOf ms) : entry e := by
  cases hb : Assoc.get? bucketKey ms with
  | none => simp [bucketOf, hb] at he
  | some v =>
      obtain ⟨es, rfl, hes⟩ := h v hb
      exact hes e (by simpa [bucketOf, hb] using he)

theorem hasBucket_appendName {ms : List (String × Json)} (h : HasBucket entry ms) {name : String}
    (hname : entry (.string name)) :
    HasBucket entry (Assoc.put bucketKey (.array (bucketOf ms ++ [.string name])) ms) := by
  intro v hv
  rw [Assoc.get?_put, if_pos rfl] at hv
  refine ⟨_, (Option.some.inj hv).symm, fun e he => ?_⟩
  rcases List.mem_append.1 he with he | he
  · exact mem_bucketOf h he
  · rwa [List.mem_singleton.1 he]

/-- The members that a node made on the way starts with. -/
def freshMembers (rest : List String) : List (String × Json) :=
  if rest.isEmpty then [] else [(bucketKey, .array [])]

theorem hasBucket_fresh (rest : List String) : HasBucket entry (freshMembers rest) := by
  intro v hv
  cases rest with
  | nil => cases hv
  | cons t ts =>
      have hv' : v = .array [] := by simpa [freshMembers, Assoc.get?] using hv.symm
      exact ⟨[], hv', by simp⟩

theorem shaped_fresh (rest : List String) : Shaped token entry (freshMembers rest) := by
  cases rest with
  | nil => exact .nil
  | cons t ts => exact .bucket .nil

/-- The child that a registration goes on with: the one under the token, or a fresh one. -/
def childFor (t : String) (rest : List String) (node : List (String × Json)) :
    List (String × Json) :=
  match Assoc.get? t node with
  | some (.object child) => child
  | _ => freshMembers rest

/-- A registration goes on with the child unless something other than a node is in its place. -/
theorem registerBelow_cons_of_object {node : List (String × Json)} {t : String}
    (h : ∀ v, Assoc.get? t node = some v → ∃ inner, v = .object inner) (name : String)
    (ts : List String) :
    registerBelow name (t :: ts) node =
      (Assoc.put t (.object (registerBelow name ts (childFor t ts node)).1) node,
        (registerBelow name ts (childFor t ts node)).2) := by
  cases hc : Assoc.get? t node with
  | none => simp only [registerBelow, hc, childFor, freshMembers]
  | some v =>
      obtain ⟨child, rfl⟩ := h v hc
      simp only [registerBelow, hc, childFor]

theorem registerBelow_cons_of_other {node : List (String × Json)} {t : String}
    (h : ¬∀ v, Assoc.get? t node = some v → ∃ inner, v = .object inner) (name : String)
    (ts : List String) : registerBelow name (t :: ts) node = (node, some .notMapping) := by
  rw [registerBelow]
  split
  · rename_i child hchild
    exact absurd (fun v hv => ⟨child, Option.some.inj (hv.symm.trans hchild)⟩) h
  · rfl
  · rename_i hnone
    exact absurd (fun v hv => nomatch hv.symm.trans hnone) h

theorem registerBelow_cons {node : List (String × Json)} (h : Shaped token entry node)
    {t : String} (ht : t ≠ bucketKey) (name : String) (ts : List String) :
    registerBelow name (t :: ts) node =
      (Assoc.put t (.object (registerBelow name ts (childFor t ts node)).1) node,
        (registerBelow name ts (childFor t ts node)).2) := by
  refine registerBelow_cons_of_object (fun v hv => ?_) name ts
  obtain ⟨child, hchild, -⟩ := h.get? ht hv
  exact ⟨child, hchild⟩

theorem hasBucket_childFor {node : List (String × Json)} (h : Shaped token entry node)
    {t : String} (ht : t ≠ bucketKey) (ts : List String) :
    HasBucket entry (childFor t ts node) := by
  cases hc : Assoc.get? t node with
  | none => simpa only [childFor, hc] using hasBucket_fresh ts
  | some v =>
      obtain ⟨child, rfl, hb, -⟩ := h.get? ht hc
      simpa only [childFor, hc] using hb

theorem shaped_childFor {node : List (String × Json)} (h : Shaped token entry node)
    {t : String} (ht : t ≠ bucketKey) (ts : List String) :
    Shaped token entry (childFor t ts node) := by
  cases hc : Assoc.get? t node with
  | none => simpa only [childFor, hc] using shaped_fresh ts
  | some v =>
      obtain ⟨child, rfl, -, hs⟩ := h.get? ht hc
      simpa only [childFor, hc] using hs

theorem registerBelow_shaped {name : String} (hname : entry (.string name)) {p : List String}
    (hp : ∀ t ∈ p, t ≠ bucketKey ∧ token t) {node : List (String × Json)}
    (hb : HasBucket entry node) (hs : Shaped token entry node) :
    (registerBelow name p node).2 = none ∧ HasBucket entry (registerBelow name p node).1 ∧
      Shaped token entry (registerBelow name p node).1 := by
  induction p generalizing node with
  | nil =>
      simp only [registerBelow, appendName_eq hb]
      exact ⟨trivial, hasBucket_appendName hb hname, hs.putBucket _⟩
  | cons t ts ih =>
      obtain ⟨ht, htok⟩ := hp t (by simp)
      obtain ⟨hnone, hb', hs'⟩ := ih (fun x hx => hp x (by simp [hx]))
        (hasBucket_childFor hs ht ts) (shaped_childFor hs ht ts)
      rw [registerBelow_cons hs ht]
      exact ⟨hnone, hasBucket_put_of_ne ht _ hb, hs.put ht htok hb' hs'⟩

end Exposure.PurposeTree
