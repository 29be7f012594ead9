import Exposure.Proofs.Json.Members
import Exposure.Proofs.Purpose.Normal
import Exposure.Proofs.Purpose.Registration

/-!
What any registrations make of a tree, also those that are blocked on the way. Below the root every
node keeps a bucket of names and is otherwise made of nodes. The root has no bucket: under the
reserved key it has a node, just if some tag began with this key. A registration is blocked just if
the key comes up later in its address, and it leaves a tree of the same kind.
-/
namespace Exposure.PurposeTree

/-- A node below the root: a bucket of names, and nodes of the same kind under all other keys. -/
inductive Complete : List (String × Json) → Prop where
  | intro {ms : List (String × Json)} (names : List String) :
      Assoc.get? bucketKey ms = some (.strings names) → (Assoc.keys ms).Nodup →
      (∀ key v, key ≠ bucketKey → Assoc.get? key ms = some v → ∃ inner, v = .object inner) →
      (∀ key inner, Assoc.get? key ms = some (.object inner) → Complete inner) → Complete ms

/-- A tree that registrations have built: nodes under all keys of the root, the reserved one
included. -/
structure Planted (t : PurposeTree) : Prop where
  nodup : (Assoc.keys t.members).Nodup
  nodes : ∀ key v, Assoc.get? key t.members = some v → ∃ inner, v = .object inner ∧ Complete inner

theorem planted_empty : Planted {} := ⟨List.nodup_nil, fun _ _ h => nomatch h⟩

theorem Complete.object {ms : List (String × Json)} (h : Complete ms) {key : String}
    (hk : key ≠ bucketKey) {v : Json} (hv : Assoc.get? key ms = some v) :
    ∃ inner, v = .object inner ∧ Complete inner := by
  obtain ⟨_, -, -, hobject, hinner⟩ := h
  obtain ⟨inner, rfl⟩ := hobject key v hk hv
  exact ⟨inner, rfl, hinner key inner hv⟩

theorem complete_putNode {ms inner : List (String × Json)} (h : Complete ms) {key : String}
    (hk : key ≠ bucketKey) (hi : Complete inner) : Complete (Assoc.put key (.object inner) ms) := by
  obtain ⟨names, hbucket, hnodup, hobject, hinner⟩ := h
  refine .intro names ?_ (Assoc.nodup_keys_put hnodup) ?_ ?_
  · rw [Assoc.get?_put, if_neg hk, hbucket]
  · intro other v hother hv
    rw [Assoc.get?_put] at hv
    split at hv
    · exact ⟨inner, (Option.some.inj hv).symm⟩
    · exact hobject other v hother hv
  · intro other below hv
    rw [Assoc.get?_put] at hv
    split at hv
    · cases hv
      exact hi
    · exact hinner other below hv

theorem complete_putNames {ms : List (String × Json)} (hnodup : (Assoc.keys ms).Nodup)
    (hnodes : ∀ key v, key ≠ bucketKey → Assoc.get? key ms = some v →
      ∃ inner, v = .object inner ∧ Complete inner) (names : List String) :
    Complete (Assoc.put bucketKey (.strings names) ms) := by
  refine .intro names ?_ (Assoc.nodup_keys_put hnodup) ?_ ?_
  · rw [Assoc.get?_put, if_pos rfl]
  · intro key v hk hv
    rw [Assoc.get?_put, if_neg (Ne.symm hk)] at hv
    obtain ⟨inner, rfl, -⟩ := hnodes key v hk hv
    exact ⟨inner, rfl⟩
  · intro key inner hv
    rw [Assoc.get?_put] at hv
    split at hv
    · cases hv
    · rename_i hk
      obtain ⟨_, hobject, hinner⟩ := hnodes key _ (Ne.symm hk) hv
      cases hobject
      exact hinner

theorem complete_bucket (names : List String) : Complete [(bucketKey, .strings names)] :=
  @complete_putNames [] List.nodup_nil (fun _ _ _ h => nomatch h) names

theorem complete_freshMembers {p : List String} (hp : p ≠ []) : Complete (freshMembers p) := by
  obtain ⟨t, ts, rfl⟩ := List.exists_cons_of_ne_nil hp
  exact complete_bucket []

/-- The child that a registration goes on with is complete or just being made. -/
theorem childFor_complete_or_fresh {node : List (String × Json)} {t : String}
    (h : ∀ v, Assoc.get? t node = some v → ∃ inner, v = .object inner ∧ Complete inner)
    (ts : List String) :
    Complete (childFor t ts node) ∨ childFor t ts node = freshMembers ts := by
  cases hc : Assoc.get? t node with
  | none => simp only [childFor, hc, or_true]
  | some v =>
      obtain ⟨inner, rfl, hi⟩ := h v hc
      simp only [childFor, hc]
      exact .inl hi

/-- A registration below a complete node, or below one just made for it, leaves a complete node. It
is blocked just if its address runs through a bucket. -/
theorem registerBelow_complete (name : String) {p : List String} {ms : List (String × Json)}
    (h : Complete ms ∨ ms = freshMembers p) :
    Complete (registerBelow name p ms).1 ∧
      (registerBelow name p ms).2 = if bucketKey ∈ p then some .notMapping else none := by
  induction p generalizing ms with
  | nil =>
      simp only [List.not_mem_nil, if_false]
      rcases h with h | rfl
      · obtain ⟨names, hbucket, hnodup, -, -⟩ := id h
        have happend : appendName name ms =
            .ok (Assoc.put bucketKey (.strings (names ++ [name])) ms) := by
          simp only [appendName, hbucket, Json.strings, List.map_append, List.map_cons,
            List.map_nil]
        simp only [registerBelow, happend, and_true]
        exact complete_putNames hnodup (fun _ _ hk hv => h.object hk hv) _
      · exact ⟨complete_bucket [name], rfl⟩
  | cons t ts ih =>
      have h : Complete ms := h.elim id fun e => e ▸ complete_freshMembers (List.cons_ne_nil t ts)
      by_cases ht : t = bucketKey
      · obtain ⟨names, hbucket, -⟩ := id h
        simp only [registerBelow, ht, hbucket, Json.strings, List.mem_cons, true_or, if_true,
          and_true]
        exact h
      · obtain ⟨hchild, hfault⟩ := ih (childFor_complete_or_fresh (fun _ hv => h.object ht hv) ts)
        rw [registerBelow_cons_of_object fun v hv => ?_]
        · simp only [hfault, List.mem_cons, Ne.symm ht, false_or, and_true]
          exact complete_putNode h ht hchild
        · obtain ⟨inner, hinner, -⟩ := h.object ht hv
          exact ⟨inner, hinner⟩

end Exposure.PurposeTree

namespace Exposure.Purpose

/-- The address of the tag begins with the reserved key. -/
def Reserved (tag : String) : Prop := (address tag).head? = some bucketKey

/-- The address of the tag comes to the reserved key after its first token. -/
def Blocked (tag : String) : Prop := bucketKey ∈ (address tag).tail

instance (tag : String) : Decidable (Reserved tag) :=
  inferInstanceAs (Decidable (_ = _))

instance (tag : String) : Decidable (Blocked tag) :=
  inferInstanceAs (Decidable (_ ∈ _))

end Exposure.Purpose

namespace Exposure.PurposeTree

open Purpose

theorem registerBelow_planted {ms : List (String × Json)} (h : Planted ⟨ms⟩) (name u : String)
    (us : List String) :
    Planted ⟨(registerBelow name (u :: us) ms).1⟩ ∧
      ((registerBelow name (u :: us) ms).2 =
        if bucketKey ∈ us then some .notMapping else none) ∧
      ((Assoc.get? bucketKey (registerBelow name (u :: us) ms).1).isSome ↔
        (Assoc.get? bucketKey ms).isSome ∨ u = bucketKey) := by
  obtain ⟨hchild, hfault⟩ :=
    registerBelow_complete name (childFor_complete_or_fresh (fun _ hv => h.nodes u _ hv) us)
  rw [registerBelow_cons_of_object fun v hv => ?_]
  · refine ⟨⟨Assoc.nodup_keys_put h.nodup, fun key v hv => ?_⟩, hfault, ?_⟩
    · rw [Assoc.get?_put] at hv
      split at hv
      · exact ⟨_, (Option.some.inj hv).symm, hchild⟩
      · exact h.nodes key v hv
    · rw [Assoc.get?_put]
      by_cases hu : u = bucketKey <;> simp [hu]
  · obtain ⟨inner, hinner, -⟩ := h.nodes u v hv
    exact ⟨inner, hinner⟩

/-- Any registration leaves a planted tree planted. It is blocked just if its tag is, and it puts a
node under the reserved key of the root just if its tag begins with this key. -/
theorem register_planted {t : PurposeTree} (h : Planted t) (tag name : String) :
    Planted (t.register tag name).1 ∧
      ((t.register tag name).2 = if address tag = [] then some (.noTokens tag)
        else if Blocked tag then some (.blocked .notMapping) else none) ∧
      ((Assoc.get? bucketKey (t.register tag name).1.members).isSome ↔
        (Assoc.get? bucketKey t.members).isSome ∨ Reserved tag) := by
  by_cases haddr : address tag = []
  · rw [register_of_address_nil haddr, if_pos haddr, Reserved, haddr]
    exact ⟨h, rfl, by simp⟩
  · obtain ⟨u, us, hcons⟩ := List.exists_cons_of_ne_nil haddr
    have hblocked : Blocked tag ↔ bucketKey ∈ us := by rw [Blocked, hcons, List.tail_cons]
    have hreserved : Reserved tag ↔ u = bucketKey := by simp [Reserved, hcons]
    obtain ⟨hplanted, hfault, hroot⟩ := registerBelow_planted h name u us
    rw [register_of_address_ne_nil haddr, if_neg haddr, hcons, hreserved]
    refine ⟨hplanted, ?_, hroot⟩
    rw [hfault]
    by_cases hus : bucketKey ∈ us <;> simp [hus, hblocked]

/-- Induction over complete nodes by what stands under each of their keys. -/
@[elab_as_elim]
theorem complete_induction {motive : List (String × Json) → Prop}
    (step : ∀ ms, (Assoc.keys ms).Nodup → (∀ m ∈ ms,
      (m.1 = bucketKey ∧ ∃ names, m.2 = .strings names) ∨
        (m.1 ≠ bucketKey ∧ ∃ inner, m.2 = .object inner ∧ motive inner)) → motive ms)
    {ms : List (String × Json)} (h : Complete ms) : motive ms := by
  induction h with
  | @intro ms names hbucket hnodup hobject _ ih =>
      refine step ms hnodup fun m hm => ?_
      have hget : Assoc.get? m.1 ms = some m.2 := Assoc.get?_of_mem hnodup hm
      by_cases hk : m.1 = bucketKey
      · rw [hk, hbucket] at hget
        exact .inl ⟨hk, names, (Option.some.inj hget).symm⟩
      · obtain ⟨inner, hinner⟩ := hobject m.1 m.2 hk hget
        exact .inr ⟨hk, inner, hinner, ih m.1 inner (by rw [hget, hinner])⟩

theorem Planted.member {t : PurposeTree} (h : Planted t) {m : String × Json}
    (hm : m ∈ t.members) : ∃ inner, m.2 = .object inner ∧ Complete inner :=
  h.nodes m.1 m.2 (Assoc.get?_of_mem h.nodup hm)

theorem memberFault?_complete {ms : List (String × Json)} (h : Complete ms) :
    memberFault? ms = none := by
  refine complete_induction (fun ms _ ih => ?_) h
  refine memberFault?_eq_none_iff.2 fun m hm => ?_
  rcases ih m hm with ⟨hk, names, hnames⟩ | ⟨hk, inner, hinner, hfault⟩
  · rw [if_pos hk, hnames]
    exact ⟨_, rfl⟩
  · rw [if_neg hk, hinner]
    exact hfault

theorem memberFault?_planted {t : PurposeTree} (h : Planted t) :
    memberFault? t.members = none := by
  refine memberFault?_eq_none_iff.2 fun m hm => ?_
  obtain ⟨inner, hi, hcomplete⟩ := h.member hm
  rw [hi]
  split
  · exact ⟨_, rfl⟩
  · exact memberFault?_complete hcomplete

theorem normalMembers_complete {ms : List (String × Json)} (h : Complete ms) :
    normalMembers ms = ms := by
  refine complete_induction (fun ms _ ih => ?_) h
  rw [normalMembers_eq_map]
  refine (List.map_congr_left fun m hm => ?_).trans ms.map_id
  rcases ih m hm with ⟨hk, names, hnames⟩ | ⟨hk, inner, hinner, hnormal⟩
  · rw [if_pos hk, hnames, show normalBucket (.strings names) = m.2 from hnames.symm, id]
  · rw [if_neg hk, hinner, normalNode, hnormal, ← hinner, id]

/-- Without a node under the reserved key a planted tree is its own normal form. -/
theorem normal_planted {t : PurposeTree} (h : Planted t)
    (hroot : Assoc.get? bucketKey t.members = none) : t.normal = t := by
  suffices hmembers : normalMembers t.members = t.members by rw [normal, hmembers]
  rw [normalMembers_eq_map]
  refine (List.map_congr_left fun m hm => ?_).trans t.members.map_id
  obtain ⟨inner, hi, hcomplete⟩ := h.member hm
  have hk : m.1 ≠ bucketKey := by
    intro hk
    have hget := Assoc.get?_of_mem h.nodup hm
    rw [hk, hroot] at hget
    cases hget
  rw [if_neg hk, hi, normalNode, normalMembers_complete hcomplete, ← hi, id]

theorem same_complete {ms : List (String × Json)} (h : Complete ms) :
    Json.same (.object ms) (.object ms) = true := by
  refine complete_induction (fun ms hnodup ih => ?_) h
  refine Json.same_object_self hnodup fun m hm => ?_
  rcases ih m hm with ⟨-, names, hnames⟩ | ⟨-, inner, hinner, hsame⟩
  · rw [hnames, Json.same_strings]
  · rw [hinner, hsame]

/-- A planted tree equals its normal form just if it has no node under the reserved key: there the
normal form has a bucket. -/
theorem same_normal_planted {t : PurposeTree} (h : Planted t) :
    t.same t.normal = true ↔ Assoc.get? bucketKey t.members = none := by
  constructor
  · intro hsame
    cases hroot : Assoc.get? bucketKey t.members with
    | none => rfl
    | some v =>
        obtain ⟨inner, rfl, -⟩ := h.nodes _ v hroot
        obtain ⟨w, hw, heq⟩ :=
          (Json.same_object_iff.1 hsame).2 _ (Assoc.mem_of_get? hroot)
        rw [normal, get?_normalMembers, hroot] at hw
        cases hw
        cases heq
  · intro hroot
    rw [normal_planted h hroot]
    refine Json.same_object_self h.nodup fun m hm => ?_
    obtain ⟨inner, hi, hcomplete⟩ := h.member hm
    rw [hi, same_complete hcomplete]

end Exposure.PurposeTree
