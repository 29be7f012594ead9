import Exposure.Proofs.Json.Members
import Exposure.Proofs.Purpose.Shape

/-!
The nodes of a purpose tree as a list, a node before its children, and the names found at an
address. In a tree without repeated keys each address stands in the list once, with the names
found there; an address that is not in the list has no names.
-/
namespace Exposure.PurposeTree

/-- An address and the names in the bucket of its node. -/
abbrev Place := List String × List Json

/-- The place as it is seen from the parent, of which it lies below the given child. -/
def Place.under (key : String) (n : Place) : Place := (key :: n.1, n.2)

/-- The places below a node with these members, in the order of a depth first walk. -/
def nodesBelow : List (String × Json) → List Place
  | [] => []
  | (key, .object inner) :: rest =>
      (if key = bucketKey then []
        else Place.under key ([], bucketOf inner) :: (nodesBelow inner).map (Place.under key)) ++
        nodesBelow rest
  | _ :: rest => nodesBelow rest

/-- The names in the bucket of the node at an address, none if there is no such node. -/
def namesAt : List String → List (String × Json) → List Json
  | [], ms => bucketOf ms
  | t :: ts, ms =>
    match Assoc.get? t ms with
    | some (.object inner) => namesAt ts inner
    | _ => []

variable {token : String → Prop} {entry : Json → Prop}

theorem nodesBelow_nil : nodesBelow [] = [] := by rw [nodesBelow]

theorem nodesBelow_bucket (v : Json) (rest : List (String × Json)) :
    nodesBelow ((bucketKey, v) :: rest) = nodesBelow rest := by
  cases v <;> simp [nodesBelow]

theorem nodesBelow_node {key : String} (hk : key ≠ bucketKey) (inner rest : List (String × Json)) :
    nodesBelow ((key, .object inner) :: rest) =
      Place.under key ([], bucketOf inner) :: (nodesBelow inner).map (Place.under key) ++
        nodesBelow rest := by
  rw [nodesBelow, if_neg hk]

theorem namesAt_cons {key : String} {inner ms : List (String × Json)}
    (h : Assoc.get? key ms = some (.object inner)) (p : List String) :
    namesAt (key :: p) ms = namesAt p inner := by
  simp only [namesAt, h]

theorem namesAt_cons_of_ne {key t : String} (h : key ≠ t) (v : Json)
    (rest : List (String × Json)) (ts : List String) :
    namesAt (t :: ts) ((key, v) :: rest) = namesAt (t :: ts) rest := by
  simp only [namesAt, Assoc.get?, if_neg h]

theorem tokens_of_mem_nodesBelow {ms : List (String × Json)} (h : Shaped token entry ms)
    {n : Place} (hn : n ∈ nodesBelow ms) : n.1 ≠ [] ∧ ∀ t ∈ n.1, t ≠ bucketKey ∧ token t := by
  induction h generalizing n with
  | nil => simp [nodesBelow_nil] at hn
  | bucket _ ih =>
      rw [nodesBelow_bucket] at hn
      exact ih hn
  | node hk hkt _ _ _ ihi ihr =>
      rw [nodesBelow_node hk, List.mem_append, List.mem_cons, List.mem_map] at hn
      rcases hn with (rfl | ⟨m, hm, rfl⟩) | hn
      · simp [Place.under, hk, hkt]
      · simpa [Place.under, hk, hkt] using (ihi hm).2
      · exact ihr hn

theorem entry_of_mem_nodesBelow {ms : List (String × Json)} (h : Shaped token entry ms)
    {n : Place} (hn : n ∈ nodesBelow ms) {e : Json} (he : e ∈ n.2) : entry e := by
  induction h generalizing n with
  | nil => simp [nodesBelow_nil] at hn
  | bucket _ ih =>
      rw [nodesBelow_bucket] at hn
      exact ih hn he
  | node hk _ hb _ _ ihi ihr =>
      rw [nodesBelow_node hk, List.mem_append, List.mem_cons, List.mem_map] at hn
      rcases hn with (rfl | ⟨m, hm, rfl⟩) | hn
      · exact mem_bucketOf hb he
      · exact ihi hm he
      · exact ihr hn he

theorem head_mem_keys {ms : List (String × Json)} (h : Shaped token entry ms)
    {n : Place} (hn : n ∈ nodesBelow ms) : ∃ key ∈ Assoc.keys ms, ∃ p, n.1 = key :: p := by
  induction h generalizing n with
  | nil => simp [nodesBelow_nil] at hn
  | bucket _ ih =>
      rw [nodesBelow_bucket] at hn
      obtain ⟨key, hkey, p, hp⟩ := ih hn
      exact ⟨key, List.mem_cons_of_mem _ hkey, p, hp⟩
  | @node k _ _ hk _ _ _ _ _ ihr =>
      rw [nodesBelow_node hk, List.mem_append, List.mem_cons, List.mem_map] at hn
      rcases hn with (rfl | ⟨m, -, rfl⟩) | hn
      · exact ⟨k, by simp [Assoc.keys], [], rfl⟩
      · exact ⟨k, by simp [Assoc.keys], m.1, rfl⟩
      · obtain ⟨key, hkey, p, hp⟩ := ihr hn
        exact ⟨key, List.mem_cons_of_mem _ hkey, p, hp⟩

theorem namesAt_of_mem_nodesBelow {ms : List (String × Json)} (h : Shaped token entry ms)
    (hd : Json.DistinctMembers ms) {n : Place} (hn : n ∈ nodesBelow ms) :
    namesAt n.1 ms = n.2 := by
  induction h generalizing n with
  | nil => simp [nodesBelow_nil] at hn
  | @bucket _ rest hr ih =>
      rw [nodesBelow_bucket] at hn
      cases hd with
      | cons hkey _ hdr =>
          obtain ⟨key, hmem, p, hp⟩ := head_mem_keys hr hn
          have hne : bucketKey ≠ key := fun e => hkey (e ▸ hmem)
          have ihn := ih hdr hn
          rw [hp] at ihn ⊢
          rwa [namesAt_cons_of_ne hne]
  | @node k inner rest hk _ _ _ hr ihi ihr =>
      rw [nodesBelow_node hk, List.mem_append, List.mem_cons, List.mem_map] at hn
      cases hd with
      | cons hkey hdi hdr =>
          have hget : Assoc.get? k ((k, Json.object inner) :: rest) = some (.object inner) := by
            simp [Assoc.get?]
          rcases hn with (rfl | ⟨m, hm, rfl⟩) | hn
          · exact namesAt_cons hget []
          · exact (namesAt_cons hget m.1).trans (ihi (hdi inner rfl) hm)
          · obtain ⟨key, hmem, p, hp⟩ := head_mem_keys hr hn
            have hne : k ≠ key := fun e => hkey (e ▸ hmem)
            have ihn := ihr hdr hn
            rw [hp] at ihn ⊢
            rwa [namesAt_cons_of_ne hne]

theorem mem_nodesBelow_of_namesAt {ms : List (String × Json)} (h : Shaped token entry ms)
    {p : List String} (hp : p ≠ []) (hps : bucketKey ∉ p) (hnames : namesAt p ms ≠ []) :
    (p, namesAt p ms) ∈ nodesBelow ms := by
  induction h generalizing p with
  | nil =>
      cases p with
      | nil => exact absurd rfl hp
      | cons t ts => exact absurd rfl hnames
  | bucket _ ih =>
      rw [nodesBelow_bucket]
      cases p with
      | nil => exact absurd rfl hp
      | cons t ts =>
          have hne : bucketKey ≠ t := fun e => hps (by simp [e])
          rw [namesAt_cons_of_ne hne] at hnames ⊢
          exact ih hp hps hnames
  | @node k inner rest hk _ _ _ _ ihi ihr =>
      rw [nodesBelow_node hk, List.mem_append]
      cases p with
      | nil => exact absurd rfl hp
      | cons t ts =>
          by_cases hkt : k = t
          · subst hkt
            have hget : Assoc.get? k ((k, Json.object inner) :: rest) = some (.object inner) := by
              rw [Assoc.get?, if_pos rfl]
            rw [namesAt_cons hget] at hnames ⊢
            left
            cases ts with
            | nil => exact List.mem_cons_self
            | cons u us =>
                have hmem := ihi (by simp) (fun hmem => hps (by simp [hmem])) hnames
                exact List.mem_cons_of_mem _ (List.mem_map.2 ⟨_, hmem, rfl⟩)
          · right
            rw [namesAt_cons_of_ne hkt] at hnames ⊢
            exact ihr hp hps hnames

theorem nodup_nodesBelow {ms : List (String × Json)} (h : Shaped token entry ms)
    (hd : Json.DistinctMembers ms) : ((nodesBelow ms).map Prod.fst).Nodup := by
  induction h with
  | nil => simp [nodesBelow_nil]
  | bucket _ ih =>
      rw [nodesBelow_bucket]
      cases hd with
      | cons _ _ hdr => exact ih hdr
  | @node k inner rest hk _ _ hi hr ihi ihr =>
      cases hd with
      | cons hkey hdi hdr =>
          rw [nodesBelow_node hk, List.map_append, List.map_cons, List.map_map]
          have hunder : (nodesBelow inner).map (Prod.fst ∘ Place.under k) =
              ((nodesBelow inner).map Prod.fst).map (List.cons k) := by
            rw [List.map_map]
            rfl
          rw [hunder]
          refine List.nodup_append.2 ⟨?_, ihr hdr, ?_⟩
          · refine List.nodup_cons.2 ⟨?_, ?_⟩
            · -- A place further down has a longer address than its ancestor.
              intro hmem
              obtain ⟨q, hq, hcons⟩ := List.mem_map.1 hmem
              obtain ⟨m, hm, rfl⟩ := List.mem_map.1 hq
              exact (tokens_of_mem_nodesBelow hi hm).1 (List.cons.inj hcons).2
            · exact List.Pairwise.map _ (fun _ _ hne hc => hne (List.cons.inj hc).2)
                (ihi (hdi inner rfl))
          · -- All addresses of the first part start with the key, none of the second does.
            intro a ha b hb hab
            obtain ⟨m, hm, rfl⟩ := List.mem_map.1 hb
            obtain ⟨key, hmem, p, hp⟩ := head_mem_keys hr hm
            have hhead : a.head? = some k := by
              rcases List.mem_cons.1 ha with rfl | ha
              · rfl
              · obtain ⟨q, -, rfl⟩ := List.mem_map.1 ha
                rfl
            rw [hab, hp] at hhead
            exact hkey (Option.some.inj hhead ▸ hmem)

end Exposure.PurposeTree
