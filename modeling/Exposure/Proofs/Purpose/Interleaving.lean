import Exposure.Proofs.Json.Members
import Exposure.Proofs.Purpose.Growth
import Exposure.Proofs.Purpose.Log
import Mathlib.Data.List.Perm.Basic

/-!
Registrations under different addresses can be interleaved at will. There is a node at an address
just if a logged address leads to it or past it, no matter which call has made it, and its bucket
holds what is logged there. Trees of registrations are equal just if they have the same nodes with
the same names, and so just if their logs agree at each address; the order of the children, which
is that of the calls, is all that a search can then show.
-/
namespace Exposure.PurposeTree

open Purpose

variable {token : String → Prop} {entry : Json → Prop}

/-- There is a node at the address below a node with these members. -/
def HasNode : List String → List (String × Json) → Prop
  | [], _ => True
  | t :: ts, ms => ∃ inner, Assoc.get? t ms = some (.object inner) ∧ HasNode ts inner

theorem hasNode_cons {t : String} {ms inner : List (String × Json)}
    (h : Assoc.get? t ms = some (.object inner)) (ts : List String) :
    HasNode (t :: ts) ms ↔ HasNode ts inner := by
  simp [HasNode, h]

theorem not_hasNode_cons {t : String} {ms : List (String × Json)} (h : Assoc.get? t ms = none)
    (ts : List String) : ¬HasNode (t :: ts) ms := by
  simp [HasNode, h]

theorem hasNode_put_of_ne {key t : String} (h : key ≠ t) (v : Json) (ms : List (String × Json))
    (ts : List String) : HasNode (t :: ts) (Assoc.put key v ms) ↔ HasNode (t :: ts) ms := by
  simp [HasNode, Assoc.get?_put, h]

theorem hasNode_fresh {q : List String} (hq : bucketKey ∉ q) {ts : List String}
    (h : HasNode q (freshMembers ts)) : q <+: ts := by
  cases q with
  | nil => exact List.nil_prefix
  | cons u us =>
      have hu : bucketKey ≠ u := fun e => hq (by simp [e])
      have hnone : Assoc.get? u (freshMembers ts) = none := by
        cases ts <;> simp [freshMembers, Assoc.get?, hu]
      exact absurd h (not_hasNode_cons hnone us)

/-- The nodes that a registration finds or makes below the child that it goes on with. -/
theorem hasNode_childFor {node : List (String × Json)} (hs : Shaped token entry node) {t : String}
    (ht : t ≠ bucketKey) {q : List String} (hq : bucketKey ∉ q) (ts : List String) :
    HasNode q (childFor t ts node) ∨ q <+: ts ↔ HasNode (t :: q) node ∨ q <+: ts := by
  cases hc : Assoc.get? t node with
  | none =>
      simp only [childFor, hc, not_hasNode_cons hc, false_or]
      exact or_iff_right_of_imp (hasNode_fresh hq)
  | some v =>
      obtain ⟨child, rfl, -⟩ := hs.get? ht hc
      simp only [childFor, hc, hasNode_cons hc]

/-- What a registration adds: the nodes on the way to its address and the one at it. -/
theorem hasNode_registerBelow (name : String) {p q : List String} (hp : bucketKey ∉ p)
    (hq : bucketKey ∉ q) {node : List (String × Json)} (hb : HasBucket entry node)
    (hs : Shaped token entry node) :
    HasNode q (registerBelow name p node).1 ↔ HasNode q node ∨ q <+: p := by
  induction p generalizing node q with
  | nil =>
      simp only [registerBelow, appendName_eq hb]
      cases q with
      | nil => simp [HasNode]
      | cons u us =>
          have hu : bucketKey ≠ u := fun e => hq (by simp [e])
          rw [hasNode_put_of_ne hu]
          simp
  | cons t ts ih =>
      have ht : t ≠ bucketKey := fun e => hp (by simp [e])
      have hts : bucketKey ∉ ts := fun h => hp (by simp [h])
      rw [registerBelow_cons hs ht]
      cases q with
      | nil => simp [HasNode]
      | cons u us =>
          have hus : bucketKey ∉ us := fun h => hq (by simp [h])
          rw [List.cons_prefix_cons]
          by_cases hu : t = u
          · subst hu
            rw [hasNode_cons (by rw [Assoc.get?_put, if_pos rfl]),
              ih hts hus (hasBucket_childFor hs ht ts) (shaped_childFor hs ht ts),
              hasNode_childFor hs ht hus ts, eq_self_iff_true, true_and]
          · rw [hasNode_put_of_ne hu]
            simp [Ne.symm hu]

theorem hasNode_register {t : PurposeTree} (ht : Regular IsName (fun _ => True) t)
    {c : Registration} (hc : bucketKey ∉ address c.tag) {q : List String} (hq : bucketKey ∉ q) :
    HasNode q (t.register c.tag c.name).1.members ↔
      HasNode q t.members ∨ ∃ e ∈ log [c], q <+: e.1 := by
  by_cases haddr : address c.tag = []
  · rw [register_of_address_nil haddr, log_cons_refused haddr]
    simp [log]
  · rw [register_of_address_ne_nil haddr, log_cons_accepted haddr]
    simp [hasNode_registerBelow c.name hc hq ht.hasBucket ht.shaped, log]

theorem log_append (calls calls' : List Registration) :
    log (calls ++ calls') = log calls ++ log calls' := by
  simp [log]

/-- Nodes stand where logged addresses lead to or past. -/
theorem hasNode_registerCalls {t : PurposeTree} (ht : Regular IsName (fun _ => True) t)
    {calls : List Registration} (h : ∀ c ∈ calls, bucketKey ∉ address c.tag) {q : List String}
    (hq : bucketKey ∉ q) :
    HasNode q (registerCalls calls t).1.members ↔
      HasNode q t.members ∨ ∃ e ∈ log calls, q <+: e.1 := by
  induction calls generalizing t with
  | nil => simp [registerCalls, log]
  | cons c calls ih =>
      obtain ⟨-, hreg, -⟩ := register_call ht (h c (by simp))
      have hlog : log (c :: calls) = log [c] ++ log calls := log_append [c] calls
      rw [registerCalls_cons, ih hreg fun d hd => h d (by simp [hd]),
        hasNode_register ht (h c (by simp)) hq, hlog]
      simp only [List.mem_append, or_and_right, exists_or, or_assoc]

theorem planted_registerCalls {t : PurposeTree} (ht : Planted t) (calls : List Registration) :
    Planted (registerCalls calls t).1 := by
  induction calls generalizing t with
  | nil => exact ht
  | cons c calls ih =>
      rw [registerCalls_cons]
      exact ih (register_planted ht c.tag c.name).1

/-- The same nodes with the same names in their buckets. -/
def Alike (ms ns : List (String × Json)) : Prop :=
  ∀ p, bucketKey ∉ p → (HasNode p ms ↔ HasNode p ns) ∧ namesAt p ms = namesAt p ns

section Same

variable {ms ns : List (String × Json)}

/-- Members other than the bucket are nodes. -/
def NodesOnly (ms : List (String × Json)) : Prop :=
  ∀ key v, key ≠ bucketKey → Assoc.get? key ms = some v → ∃ inner, v = .object inner

theorem NodesOnly.get?_eq_none (h : NodesOnly ms) {key : String} (hk : key ≠ bucketKey)
    (hnode : ¬HasNode [key] ms) : Assoc.get? key ms = none := by
  cases hv : Assoc.get? key ms with
  | none => rfl
  | some v =>
      obtain ⟨inner, rfl⟩ := h key v hk hv
      exact absurd ⟨inner, hv, trivial⟩ hnode

/-- Equality at one level: of the buckets, and of the children, for which it is known. -/
theorem same_iff_alike (hm : (Assoc.keys ms).Nodup) (hn : (Assoc.keys ns).Nodup)
    (hms : NodesOnly ms) (hns : NodesOnly ns)
    (hbucket : Option.Rel (fun v w => Json.same v w = true) (Assoc.get? bucketKey ms)
      (Assoc.get? bucketKey ns) ↔ bucketOf ms = bucketOf ns)
    (hinner : ∀ key inner inner', key ≠ bucketKey → Assoc.get? key ms = some (.object inner) →
      Assoc.get? key ns = some (.object inner') →
      (Json.same (.object inner) (.object inner') = true ↔ Alike inner inner')) :
    Json.same (.object ms) (.object ns) = true ↔ Alike ms ns := by
  rw [Json.same_object_iff_get? hm hn]
  constructor
  · intro h p hp
    cases p with
    | nil => exact ⟨Iff.rfl, hbucket.1 (h bucketKey)⟩
    | cons t ts =>
        obtain ⟨ht, hts⟩ := not_or.1 (mt List.mem_cons.2 hp)
        have hrel := h t
        cases hv : Assoc.get? t ms with
        | none =>
            cases hw : Assoc.get? t ns with
            | none => simp [HasNode, namesAt, hv, hw]
            | some w =>
                rw [hv, hw] at hrel
                cases hrel
        | some v =>
            cases hw : Assoc.get? t ns with
            | none =>
                rw [hv, hw] at hrel
                cases hrel
            | some w =>
                obtain ⟨inner, rfl⟩ := hms t v (Ne.symm ht) hv
                obtain ⟨inner', rfl⟩ := hns t w (Ne.symm ht) hw
                rw [hv, hw] at hrel
                cases hrel with
                | some hsame =>
                    rw [hasNode_cons hv, hasNode_cons hw, namesAt_cons hv, namesAt_cons hw]
                    exact (hinner t inner inner' (Ne.symm ht) hv hw).1 hsame ts hts
  · intro h key
    by_cases hk : key = bucketKey
    · rw [hk]
      exact hbucket.2 (h [] (by simp)).2
    · have hnode := (h [key] (by simpa using Ne.symm hk)).1
      by_cases hms' : HasNode [key] ms
      · obtain ⟨inner, hv, -⟩ := id hms'
        obtain ⟨inner', hw, -⟩ := hnode.1 hms'
        rw [hv, hw]
        refine .some ((hinner key inner inner' hk hv hw).2 fun p hp => ?_)
        have hbelow := h (key :: p) (by simp [Ne.symm hk, hp])
        rwa [hasNode_cons hv, hasNode_cons hw, namesAt_cons hv, namesAt_cons hw] at hbelow
      · rw [hms.get?_eq_none hk hms', hns.get?_eq_none hk (mt hnode.2 hms')]
        exact .none

theorem bucketOf_of_strings {names : List String}
    (h : Assoc.get? bucketKey ms = some (.strings names)) :
    bucketOf ms = names.map Json.string := by
  simp only [bucketOf, h, Json.strings]

theorem map_string_inj {ss ts : List String} :
    ss.map Json.string = ts.map Json.string ↔ ss = ts :=
  (List.map_injective_iff.2 fun _ _ h => Json.string.inj h).eq_iff

theorem same_complete_iff (hm : Complete ms) (hn : Complete ns) :
    Json.same (.object ms) (.object ns) = true ↔ Alike ms ns := by
  induction hm generalizing ns with
  | @intro ms names hbucket hnodup hobject hinner ih =>
      obtain ⟨names', hbucket', hnodup', hobject', hinner'⟩ := hn
      refine same_iff_alike hnodup hnodup' hobject hobject' ?_ ?_
      · rw [bucketOf_of_strings hbucket, bucketOf_of_strings hbucket', map_string_inj,
          ← Json.same_strings_iff, hbucket, hbucket', Option.rel_some_some]
      · exact fun key inner inner' _ hv hw => ih key inner hv (hinner' key inner' hw)

end Same

/-- Trees that registrations have built are equal just if they have the same nodes with the same
names. -/
theorem same_planted_iff {t t' : PurposeTree} (ht : Planted t) (ht' : Planted t')
    (hroot : Assoc.get? bucketKey t.members = none)
    (hroot' : Assoc.get? bucketKey t'.members = none) :
    t.same t' = true ↔ Alike t.members t'.members := by
  have hnodes {t : PurposeTree} (ht : Planted t) : NodesOnly t.members := by
    intro key v _ hv
    obtain ⟨inner, hinner, -⟩ := ht.nodes key v hv
    exact ⟨inner, hinner⟩
  have hcomplete {t : PurposeTree} (ht : Planted t) {key : String} {inner : List (String × Json)}
      (hv : Assoc.get? key t.members = some (.object inner)) : Complete inner := by
    obtain ⟨_, hinner, hc⟩ := ht.nodes key _ hv
    exact Json.object.inj hinner ▸ hc
  refine same_iff_alike ht.nodup ht'.nodup (hnodes ht) (hnodes ht') ?_ ?_
  · simp [hroot, hroot', bucketOf]
  · exact fun key inner inner' _ hv hw => same_complete_iff (hcomplete ht hv) (hcomplete ht' hw)

/-- The names that calls register under an address, in order. -/
def acceptedAt (calls : List Registration) (p : List String) : List String :=
  (loggedAt p (log calls)).map Prod.snd

theorem loggedAt_eq (calls : List Registration) (p : List String) :
    loggedAt p (log calls) = (acceptedAt calls p).map fun name => (p, name) := by
  rw [acceptedAt, List.map_map]
  refine (List.map_id _).symm.trans (List.map_congr_left fun e he => ?_)
  have hp : e.1 = p := by simpa using (List.mem_filter.1 he).2
  simp [← hp]

theorem mem_acceptedAt {calls : List Registration} {p : List String} {name : String} :
    name ∈ acceptedAt calls p ↔ (p, name) ∈ log calls := by
  simp [acceptedAt, loggedAt]

section Runs

variable {calls calls' : List Registration} (h : ∀ c ∈ calls, bucketKey ∉ address c.tag)
  (h' : ∀ c ∈ calls', bucketKey ∉ address c.tag)

include h in
theorem namesAt_run {p : List String} (hp : bucketKey ∉ p) :
    namesAt p (registerCalls calls {}).1.members = (acceptedAt calls p).map Json.string := by
  obtain ⟨-, -, hnames⟩ := registerCalls_run regular_empty h
  rw [hnames p hp, namesAt_nil, List.nil_append, loggedAt_eq, List.map_map]
  rfl

include h h' in
/-- The trees of two runs have the same nodes and names just if these accept the same names at each
address. -/
theorem alike_run_iff :
    Alike (registerCalls calls {}).1.members (registerCalls calls' {}).1.members ↔
      ∀ p, acceptedAt calls p = acceptedAt calls' p := by
  constructor
  · intro halike p
    by_cases hp : bucketKey ∈ p
    · -- No call registers anything at such an address.
      have hnone {calls : List Registration} (h : ∀ c ∈ calls, bucketKey ∉ address c.tag) :
          acceptedAt calls p = [] := by
        refine List.eq_nil_iff_forall_not_mem.2 fun name hname => ?_
        exact (address_of_mem_log h (mem_acceptedAt.1 hname)).2.1 hp
      rw [hnone h, hnone h']
    · have hnames := (halike p hp).2
      rwa [namesAt_run h hp, namesAt_run h' hp, map_string_inj] at hnames
  · intro hsame p hp
    have hlog : ∀ e, e ∈ log calls ↔ e ∈ log calls' := by
      rintro ⟨p, name⟩
      rw [← mem_acceptedAt, hsame, mem_acceptedAt]
    refine ⟨?_, by rw [namesAt_run h hp, namesAt_run h' hp, hsame]⟩
    rw [hasNode_registerCalls regular_empty h hp, hasNode_registerCalls regular_empty h' hp]
    simp only [hlog]

/-- What a search finds in a tree that holds the names of a log: the selected entries of the log,
those of one path in their order. -/
theorem search_of_log {t : PurposeTree} (ht : Regular IsName (fun _ => True) t)
    {entries : List LogEntry}
    (hentries : ∀ e ∈ entries, e.1 ≠ [] ∧ bucketKey ∉ e.1 ∧ ∀ x ∈ e.1, IsName x)
    (hlog : ∀ p, bucketKey ∉ p →
      namesAt p t.members = (loggedAt p entries).map fun e => .string e.2)
    (pattern : String) (ancestors : Bool) :
    ∃ hits, t.search pattern ancestors = .ok hits ∧
      hits.Perm ((entries.filter fun e => Selected (tokens pattern) e.1 ancestors).map hitOf) ∧
      ∀ path, hits.filter (fun hit => hit.1 = path) =
        ((entries.filter fun e => Selected (tokens pattern) e.1 ancestors).map hitOf).filter
          fun hit => hit.1 = path := by
  have hnodup := nodup_reachedAddresses ht pattern ancestors
  have hselected : (entries.filter fun e => e.1 ∈ reachedAddresses t pattern ancestors) =
      entries.filter fun e => Selected (tokens pattern) e.1 ancestors := by
    refine List.filter_congr fun e he => ?_
    obtain ⟨hne, hkey, -⟩ := hentries e he
    simp only [mem_reachedAddresses ht he hne hkey (hlog e.1 hkey)]
  refine ⟨_, search_eq_flatMap_loggedAt ht (fun p hkey _ => hlog p hkey) pattern ancestors, ?_,
    fun path => ?_⟩
  · rw [← hselected]
    exact (flatMap_loggedAt_perm hnodup entries).map hitOf
  · obtain ⟨before, after, hsplit, hother⟩ := hits_split hnodup
      (fun _ hk => address_of_mem_reachedAddresses ht hk)
      (fun e he => ⟨(hentries e he).1, (hentries e he).2.2⟩) path
    have hnone {hits : List Hit} (hsub : hits ⊆ before ++ after) :
        hits.filter (fun hit => hit.1 = path) = [] :=
      List.filter_eq_nil_iff.2 fun hit hhit => by simpa using hother hit (hsub hhit)
    rw [hsplit, List.filter_append, List.filter_append,
      hnone (List.subset_append_left before after), hnone (List.subset_append_right before after),
      List.nil_append, List.append_nil, List.filter_filter, hselected]
    simp only [Bool.and_self]

include h h' in
/-- The order of registrations matters only within an address. Two runs make equal trees just if
they accept the same names in the same order at each address, and then a search finds the same in
both, in the same order under each path. -/
theorem registerCalls_interleaved :
    ((registerCalls calls {}).1.same (registerCalls calls' {}).1 = true ↔
      ∀ p, acceptedAt calls p = acceptedAt calls' p) ∧
    ((∀ p, acceptedAt calls p = acceptedAt calls' p) → ∀ pattern ancestors, ∃ hits hits',
      (registerCalls calls {}).1.search pattern ancestors = .ok hits ∧
      (registerCalls calls' {}).1.search pattern ancestors = .ok hits' ∧ hits.Perm hits' ∧
      ∀ path, hits.filter (fun hit => hit.1 = path) = hits'.filter fun hit => hit.1 = path) := by
  obtain ⟨-, hreg, -⟩ := registerCalls_run regular_empty h
  obtain ⟨-, hreg', -⟩ := registerCalls_run regular_empty h'
  constructor
  · rw [same_planted_iff (planted_registerCalls planted_empty calls)
      (planted_registerCalls planted_empty calls') hreg.noRootBucket hreg'.noRootBucket]
    exact alike_run_iff h h'
  · intro hsame pattern ancestors
    -- Both trees hold the names of the first log.
    have hlog {names : List Json} {p : List String}
        (hnames : names = (acceptedAt calls p).map Json.string) :
        names = (loggedAt p (log calls)).map fun e => .string e.2 := by
      rw [hnames, acceptedAt, List.map_map]
      rfl
    have hentries : ∀ e ∈ log calls, e.1 ≠ [] ∧ bucketKey ∉ e.1 ∧ ∀ x ∈ e.1, IsName x :=
      fun e he => address_of_mem_log h he
    obtain ⟨hits, hok, hperm, hpaths⟩ := search_of_log hreg hentries
      (fun p hp => hlog (namesAt_run h hp)) pattern ancestors
    obtain ⟨hits', hok', hperm', hpaths'⟩ := search_of_log hreg' hentries
      (fun p hp => hlog (hsame p ▸ namesAt_run h' hp)) pattern ancestors
    exact ⟨hits, hits', hok, hok', hperm.trans hperm'.symm,
      fun path => (hpaths path).trans (hpaths' path).symm⟩

end Runs

/-- A node on the way to another is made first here, and with a name of its own. -/
def parentFirst : List Registration :=
  [⟨"log", "A"⟩, ⟨" . ", "B"⟩, ⟨"log.write", "C"⟩, ⟨"read", "D"⟩, ⟨"LOG", "E"⟩]

/-- The same registrations, the node on the way made by the other's. -/
def childFirst : List Registration :=
  [⟨"read", "D"⟩, ⟨" .Log..write ", "C"⟩, ⟨"Log", "A"⟩, ⟨"log.", "E"⟩]

theorem registerCalls_interleaved_parent :
    (∀ c ∈ parentFirst, bucketKey ∉ address c.tag) ∧
    (∀ c ∈ childFirst, bucketKey ∉ address c.tag) ∧
    (∀ p, acceptedAt parentFirst p = acceptedAt childFirst p) ∧
    (registerCalls parentFirst {}).1.same (registerCalls childFirst {}).1 = true ∧
    ∃ hits hits', (registerCalls parentFirst {}).1.search "l*." false = .ok hits ∧
      (registerCalls childFirst {}).1.search "l*." false = .ok hits' ∧ hits.Perm hits' := by
  have h : ∀ c ∈ parentFirst, bucketKey ∉ address c.tag := by decide +kernel
  have h' : ∀ c ∈ childFirst, bucketKey ∉ address c.tag := by decide +kernel
  have hlog : log parentFirst =
      [(["LOG"], "A"), (["LOG", "WRITE"], "C"), (["READ"], "D"), (["LOG"], "E")] := by
    decide +kernel
  have hlog' : log childFirst =
      [(["READ"], "D"), (["LOG", "WRITE"], "C"), (["LOG"], "A"), (["LOG"], "E")] := by
    decide +kernel
  have hsame : ∀ p, acceptedAt parentFirst p = acceptedAt childFirst p := by
    intro p
    rw [acceptedAt, acceptedAt, hlog, hlog']
    by_cases hlog : ["LOG"] = p
    · simp [loggedAt, ← hlog]
    · by_cases hwrite : ["LOG", "WRITE"] = p
      · simp [loggedAt, ← hwrite]
      · simp [loggedAt, List.filter_cons, hlog, hwrite]
  obtain ⟨hiff, hsearch⟩ := registerCalls_interleaved h h'
  obtain ⟨hits, hits', hok, hok', hperm, -⟩ := hsearch hsame "l*." false
  exact ⟨h, h', hsame, hiff.2 hsame, hits, hits', hok, hok', hperm⟩

end Exposure.PurposeTree
