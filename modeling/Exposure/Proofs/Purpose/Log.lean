import Exposure.Proofs.Purpose.Registration
import Mathlib.Data.List.Basic

/-!
A purpose tree refines the flat log of its registrations. Whatever the order of the calls and
however their tags overlap, a search gives each logged registration whose address the pattern
selects, once, and those of one path side by side in the order of the calls.
-/
namespace Exposure.PurposeTree

variable {token : String → Prop} {entry : Json → Prop}

theorem namesAt_nil (p : List String) : namesAt p [] = [] := by
  cases p <;> rfl

structure Registration where
  tag : String
  name : String

/-- Makes the calls in order. Gives the tree and what each call raises, if it does. -/
def registerCalls : List Registration → PurposeTree → PurposeTree × List (Option RegisterError)
  | [], t => (t, [])
  | c :: calls, t =>
    let (t', raised) := t.register c.tag c.name
    let (t'', others) := registerCalls calls t'
    (t'', raised :: others)

theorem registerCalls_cons (c : Registration) (calls : List Registration) (t : PurposeTree) :
    registerCalls (c :: calls) t =
      ((registerCalls calls (t.register c.tag c.name).1).1,
        (t.register c.tag c.name).2 :: (registerCalls calls (t.register c.tag c.name).1).2) := by
  simp only [registerCalls]

/-- What a call raises: a tag without tokens is refused and any other accepted. -/
def Registration.raised (c : Registration) : Option RegisterError :=
  if Purpose.address c.tag = [] then some (.noTokens c.tag) else none

/-- An accepted registration: an address and the name under it. -/
abbrev LogEntry := List String × String

/-- The accepted calls in order. -/
def log (calls : List Registration) : List LogEntry :=
  (calls.map fun c => (Purpose.address c.tag, c.name)).filter fun e => e.1 ≠ []

/-- The logged registrations whose addresses a pattern selects. -/
def selectedLog (calls : List Registration) (pattern : String) (ancestors : Bool) :
    List LogEntry :=
  (log calls).filter fun e => Selected (Purpose.tokens pattern) e.1 ancestors

def hitOf (e : LogEntry) : Hit := (Purpose.pathOf e.1, .string e.2)

def loggedAt (p : List String) (entries : List LogEntry) : List LogEntry :=
  entries.filter fun e => e.1 = p

theorem address_of_mem_log {calls : List Registration}
    (h : ∀ c ∈ calls, bucketKey ∉ Purpose.address c.tag) {e : LogEntry} (he : e ∈ log calls) :
    e.1 ≠ [] ∧ bucketKey ∉ e.1 ∧ ∀ t ∈ e.1, Purpose.IsName t := by
  obtain ⟨hmem, hne⟩ := List.mem_filter.1 he
  obtain ⟨c, hc, rfl⟩ := List.mem_map.1 hmem
  -- The pair is taken apart first: comparing `address` with a projection would unfold it.
  dsimp only at hne ⊢
  exact ⟨by simpa using hne, h c hc, fun t ht => Purpose.isName_of_mem_address ht⟩

theorem log_cons_refused {c : Registration} (h : Purpose.address c.tag = [])
    (calls : List Registration) : log (c :: calls) = log calls := by
  simp [log, h]

theorem log_cons_accepted {c : Registration} (h : Purpose.address c.tag ≠ [])
    (calls : List Registration) :
    log (c :: calls) = (Purpose.address c.tag, c.name) :: log calls := by
  simp [log, h]

/-- One call on a regular tree: what it raises, and what it adds where. -/
theorem register_call {t : PurposeTree} (ht : Regular Purpose.IsName (fun _ => True) t)
    {c : Registration} (hc : bucketKey ∉ Purpose.address c.tag) :
    (t.register c.tag c.name).2 = c.raised ∧
      Regular Purpose.IsName (fun _ => True) (t.register c.tag c.name).1 ∧
      ∀ p, bucketKey ∉ p → namesAt p (t.register c.tag c.name).1.members =
        namesAt p t.members ++ (loggedAt p (log [c])).map fun e => .string e.2 := by
  by_cases haddr : Purpose.address c.tag = []
  · rw [register_of_address_nil haddr, log_cons_refused haddr]
    exact ⟨by simp [Registration.raised, haddr], ht, fun p _ => by simp [log, loggedAt]⟩
  · have hp : ∀ x ∈ Purpose.address c.tag, x ≠ bucketKey ∧ Purpose.IsName x := fun x hx =>
      ⟨fun e => hc (e ▸ hx), Purpose.isName_of_mem_address hx⟩
    obtain ⟨hnone, hreg⟩ : (t.register c.tag c.name).2 = none ∧
        Regular Purpose.IsName (fun _ => True) (t.register c.tag c.name).1 :=
      regular_register ht trivial haddr hp
    refine ⟨by rw [hnone, Registration.raised, if_neg haddr], hreg, fun p hkey => ?_⟩
    rw [register_of_address_ne_nil haddr, log_cons_accepted haddr]
    dsimp only
    rw [namesAt_registerBelow c.name hc hkey ht.hasBucket ht.shaped, loggedAt, List.filter_cons]
    by_cases heq : p = Purpose.address c.tag
    · simp [heq, log]
    · simp [heq, Ne.symm heq, log]

theorem loggedAt_log_cons (p : List String) (c : Registration) (calls : List Registration) :
    loggedAt p (log (c :: calls)) = loggedAt p (log [c]) ++ loggedAt p (log calls) := by
  simp only [loggedAt, log, List.map_cons, List.filter_cons, List.map_nil, List.filter_nil]
  split <;> simp [List.filter_cons]
  split <;> rfl

theorem registerCalls_run {t : PurposeTree} (ht : Regular Purpose.IsName (fun _ => True) t)
    {calls : List Registration} (h : ∀ c ∈ calls, bucketKey ∉ Purpose.address c.tag) :
    (registerCalls calls t).2 = calls.map Registration.raised ∧
      Regular Purpose.IsName (fun _ => True) (registerCalls calls t).1 ∧
      ∀ p, bucketKey ∉ p → namesAt p (registerCalls calls t).1.members =
        namesAt p t.members ++ (loggedAt p (log calls)).map fun e => .string e.2 := by
  induction calls generalizing t with
  | nil => exact ⟨rfl, ht, fun p _ => by simp [registerCalls, log, loggedAt]⟩
  | cons c calls ih =>
      obtain ⟨hraised, hreg, hnames⟩ := register_call ht (h c (by simp))
      obtain ⟨hraised', hreg', hnames'⟩ := ih hreg fun d hd => h d (by simp [hd])
      rw [registerCalls_cons]
      refine ⟨?_, hreg', fun p hkey => ?_⟩
      · rw [List.map_cons, ← hraised, ← hraised']
      · rw [loggedAt_log_cons, List.map_append, ← List.append_assoc, ← hnames p hkey,
          ← hnames' p hkey]

theorem flatMap_loggedAt_perm {ks : List (List String)} (h : ks.Nodup)
    (entries : List LogEntry) :
    (ks.flatMap fun k => loggedAt k entries).Perm (entries.filter fun e => e.1 ∈ ks) := by
  induction ks with
  | nil => simp
  | cons k ks ih =>
      obtain ⟨hk, hks⟩ := List.nodup_cons.1 h
      -- The selected entries are split into those at the first address and the others.
      have hsame : loggedAt k (entries.filter fun e => e.1 ∈ k :: ks) = loggedAt k entries := by
        rw [loggedAt, List.filter_filter, loggedAt]
        refine List.filter_congr fun e _ => ?_
        by_cases he : e.1 = k <;> simp [he]
      have hrest : ((entries.filter fun e => e.1 ∈ k :: ks).filter fun e => !decide (e.1 = k)) =
          entries.filter fun e => e.1 ∈ ks := by
        rw [List.filter_filter]
        refine List.filter_congr fun e _ => ?_
        by_cases he : e.1 = k <;> simp [he, hk]
      rw [List.flatMap_cons, ← hsame]
      refine ((ih hks).append_left _).trans ?_
      rw [← hrest]
      exact List.filter_append_perm _ _

/-- Gathered entries of one address stand side by side, in the order of the log. -/
theorem flatMap_loggedAt_split {ks : List (List String)} (h : ks.Nodup)
    (entries : List LogEntry) {k : List String} (hk : k ∈ ks) :
    ∃ before after, (ks.flatMap fun k => loggedAt k entries) =
        before ++ loggedAt k entries ++ after ∧ ∀ e ∈ before ++ after, e.1 ≠ k := by
  obtain ⟨front, back, rfl⟩ := List.append_of_mem hk
  have hne : ∀ l ∈ front ++ back, l ≠ k := by
    have hcons := (List.perm_middle.nodup_iff).1 h
    exact fun l hl e => (List.nodup_cons.1 hcons).1 (e ▸ hl)
  refine ⟨front.flatMap fun k => loggedAt k entries, back.flatMap fun k => loggedAt k entries,
    by simp, fun e he => ?_⟩
  rw [← List.flatMap_append] at he
  obtain ⟨l, hl, hmem⟩ := List.mem_flatMap.1 he
  have hel : e.1 = l := by simpa using (List.mem_filter.1 hmem).2
  rw [hel]
  exact hne l hl

/-- The addresses that a search of the tree reaches, in its order. -/
def reachedAddresses (t : PurposeTree) (pattern : String) (ancestors : Bool) :
    List (List String) :=
  ((nodesBelow t.members).map Prod.fst).filter fun p =>
    Selected (Purpose.tokens pattern) p ancestors

/-- A search of a tree that holds the names of a log gives the logged entries of the addresses
that it reaches. -/
theorem search_eq_flatMap_loggedAt {t : PurposeTree}
    (ht : Regular Purpose.IsName (fun _ => True) t) {entries : List LogEntry}
    (hlog : ∀ p, bucketKey ∉ p → p ≠ [] →
      namesAt p t.members = (loggedAt p entries).map fun e => .string e.2)
    (pattern : String) (ancestors : Bool) :
    t.search pattern ancestors =
      .ok (((reachedAddresses t pattern ancestors).flatMap fun p => loggedAt p entries).map
        hitOf) := by
  have hplace : ∀ n ∈ nodesBelow t.members,
      hitsAt "" n = (loggedAt n.1 entries).map hitOf := by
    intro n hn
    obtain ⟨hne, htok⟩ := tokens_of_mem_nodesBelow ht.shaped hn
    have hkey : bucketKey ∉ n.1 := fun hmem => (htok _ hmem).1 rfl
    rw [hitsAt, ← namesAt_of_mem_nodesBelow ht.shaped ht.distinct hn, hlog _ hkey hne,
      Purpose.foldl_extendPath_empty hne fun x hx => (htok x hx).2.1, List.map_map]
    refine List.map_congr_left fun e he => ?_
    have hfst : e.1 = n.1 := by simpa using (List.mem_filter.1 he).2
    simp [hitOf, hfst]
  rw [search, searchMembers_eq ht.shaped (.inl (Purpose.tokens_ne_nil pattern)), reachedAddresses,
    List.filter_map, List.flatMap_map, List.map_flatMap]
  simp only [Function.comp_def, ← reaches_iff_selected, Bool.decide_eq_true]
  refine congrArg _ (List.flatMap_congr fun n hn => ?_)
  exact hplace n (List.mem_filter.1 hn).1

theorem nodup_reachedAddresses {t : PurposeTree} (ht : Regular token entry t) (pattern : String)
    (ancestors : Bool) : (reachedAddresses t pattern ancestors).Nodup :=
  (nodup_nodesBelow ht.shaped ht.distinct).filter _

theorem mem_reachedAddresses {t : PurposeTree} (ht : Regular token entry t)
    {entries : List LogEntry} {e : LogEntry} (he : e ∈ entries) (hne : e.1 ≠ [])
    (hkey : bucketKey ∉ e.1)
    (hlog : namesAt e.1 t.members = (loggedAt e.1 entries).map fun e => .string e.2)
    (pattern : String) (ancestors : Bool) :
    e.1 ∈ reachedAddresses t pattern ancestors ↔
      Selected (Purpose.tokens pattern) e.1 ancestors := by
  have hmem : e ∈ loggedAt e.1 entries := List.mem_filter.2 ⟨he, by simp⟩
  have hnames : namesAt e.1 t.members ≠ [] := by
    rw [hlog]
    exact fun hnil => List.ne_nil_of_mem hmem (List.map_eq_nil_iff.1 hnil)
  rw [reachedAddresses, List.mem_filter, decide_eq_true_eq]
  exact and_iff_right
    (List.mem_map_of_mem (mem_nodesBelow_of_namesAt ht.shaped hne hkey hnames))

theorem address_of_mem_reachedAddresses {t : PurposeTree} (ht : Regular token entry t)
    {pattern : String} {ancestors : Bool} {p : List String}
    (hp : p ∈ reachedAddresses t pattern ancestors) : p ≠ [] ∧ ∀ x ∈ p, token x := by
  obtain ⟨n, hn, rfl⟩ := List.mem_map.1 (List.mem_filter.1 hp).1
  obtain ⟨hne, htok⟩ := tokens_of_mem_nodesBelow ht.shaped hn
  exact ⟨hne, fun x hx => (htok x hx).2⟩

theorem hits_split {ks : List (List String)} (hnodup : ks.Nodup)
    (hks : ∀ k ∈ ks, k ≠ [] ∧ ∀ x ∈ k, Purpose.IsName x) {entries : List LogEntry}
    (hentries : ∀ e ∈ entries, e.1 ≠ [] ∧ ∀ x ∈ e.1, Purpose.IsName x) (path : String) :
    ∃ before after, (ks.flatMap fun k => loggedAt k entries).map hitOf =
        before ++ ((entries.filter fun e => e.1 ∈ ks).map hitOf).filter
          (fun hit => hit.1 = path) ++ after ∧
      ∀ hit ∈ before ++ after, hit.1 ≠ path := by
  by_cases hpath : ∃ k ∈ ks, Purpose.pathOf k = path
  · obtain ⟨k, hk, rfl⟩ := hpath
    obtain ⟨before, after, hsplit, hother⟩ := flatMap_loggedAt_split hnodup entries hk
    have hgroup : ((entries.filter fun e => e.1 ∈ ks).map hitOf).filter
        (fun hit => hit.1 = Purpose.pathOf k) = (loggedAt k entries).map hitOf := by
      rw [List.filter_map, List.filter_filter, loggedAt]
      refine congrArg _ (List.filter_congr fun e he => ?_)
      have hinj : Purpose.pathOf e.1 = Purpose.pathOf k ↔ e.1 = k :=
        ⟨Purpose.pathOf_inj (hentries e he).1 (hks k hk).1 (hentries e he).2 (hks k hk).2,
          fun heq => congrArg _ heq⟩
      by_cases heq : e.1 = k <;> simp [hitOf, hinj, heq, hk]
    refine ⟨before.map hitOf, after.map hitOf, ?_, fun hit hhit => ?_⟩
    · rw [hgroup, hsplit, List.map_append, List.map_append]
    · rw [← List.map_append] at hhit
      obtain ⟨e, he, rfl⟩ := List.mem_map.1 hhit
      have hmem : e ∈ ks.flatMap fun k => loggedAt k entries := by
        rw [hsplit]
        rcases List.mem_append.1 he with he | he <;> simp [he]
      obtain ⟨l, -, hl⟩ := List.mem_flatMap.1 hmem
      have hent := hentries e (List.mem_filter.1 hl).1
      exact fun heq => hother e he
        (Purpose.pathOf_inj hent.1 (hks k hk).1 hent.2 (hks k hk).2 heq)
  · -- No reached address is written like this, so no hit has the path.
    have hnone : ∀ hit ∈ (ks.flatMap fun k => loggedAt k entries).map hitOf, hit.1 ≠ path := by
      intro hit hhit heq
      obtain ⟨e, he, rfl⟩ := List.mem_map.1 hhit
      obtain ⟨k, hk, hl⟩ := List.mem_flatMap.1 he
      have hek : e.1 = k := by simpa using (List.mem_filter.1 hl).2
      exact hpath ⟨k, hk, hek ▸ heq⟩
    have hempty : ((entries.filter fun e => e.1 ∈ ks).map hitOf).filter
        (fun hit => hit.1 = path) = [] := by
      rw [List.filter_eq_nil_iff]
      intro hit hhit
      have hperm := (flatMap_loggedAt_perm hnodup entries).map hitOf
      simpa using hnone hit (hperm.mem_iff.2 hhit)
    exact ⟨_, [], by rw [hempty, List.append_nil, List.append_nil], by simpa using hnone⟩

/-- The tree of a run of calls refines their log. A call raises just if its tag has no token, and
then it changes nothing; a search gives the logged registrations whose addresses the pattern
selects, and those of one path side by side in the order of the calls. -/
theorem registerCalls_refines_log (calls : List Registration)
    (h : ∀ c ∈ calls, bucketKey ∉ Purpose.address c.tag) :
    (registerCalls calls {}).2 = calls.map Registration.raised ∧
    (∀ tag name, Purpose.address tag = [] →
      (registerCalls calls {}).1.register tag name =
        ((registerCalls calls {}).1, some (.noTokens tag))) ∧
    ∀ pattern ancestors, ∃ hits,
      (registerCalls calls {}).1.search pattern ancestors = .ok hits ∧
      hits.Perm ((selectedLog calls pattern ancestors).map hitOf) ∧
      ∀ path, ∃ before after,
        hits = before ++ ((selectedLog calls pattern ancestors).map hitOf).filter
          (fun hit => hit.1 = path) ++ after ∧
        ∀ hit ∈ before ++ after, hit.1 ≠ path := by
  obtain ⟨hraised, hreg, hnames⟩ := registerCalls_run regular_empty h
  refine ⟨hraised, fun tag name htag => register_of_address_nil htag name _, ?_⟩
  intro pattern ancestors
  have hlog : ∀ p, bucketKey ∉ p → namesAt p (registerCalls calls {}).1.members =
      (loggedAt p (log calls)).map fun e => .string e.2 := by
    intro p hkey
    rw [hnames p hkey, namesAt_nil, List.nil_append]
  have hks : ∀ k ∈ reachedAddresses (registerCalls calls {}).1 pattern ancestors,
      k ≠ [] ∧ ∀ x ∈ k, Purpose.IsName x := fun k hk => address_of_mem_reachedAddresses hreg hk
  have hnodup := nodup_reachedAddresses hreg pattern ancestors
  have hselected : ((log calls).filter fun e =>
      e.1 ∈ reachedAddresses (registerCalls calls {}).1 pattern ancestors) =
        selectedLog calls pattern ancestors := by
    refine List.filter_congr fun e he => ?_
    obtain ⟨hne, hkey, -⟩ := address_of_mem_log h he
    simp only [mem_reachedAddresses hreg he hne hkey (hlog e.1 hkey)]
  refine ⟨_, search_eq_flatMap_loggedAt hreg (fun p hkey _ => hlog p hkey) pattern ancestors,
    ?_, ?_⟩
  · rw [← hselected]
    exact (flatMap_loggedAt_perm hnodup (log calls)).map hitOf
  · rw [← hselected]
    exact hits_split hnodup hks fun e he =>
      ⟨(address_of_mem_log h he).1, (address_of_mem_log h he).2.2⟩

/-- Calls whose tags overlap, differ in spelling or have no token. -/
def overlappingCalls : List Registration :=
  [⟨" log.write ", "A"⟩, ⟨"log", "B"⟩, ⟨" . ", "C"⟩, ⟨".LOG..Write.", "D"⟩, ⟨"read.log", "E"⟩]

theorem registerCalls_refines_log_overlapping :
    (∀ c ∈ overlappingCalls, bucketKey ∉ Purpose.address c.tag) ∧
    (registerCalls overlappingCalls {}).2 = [none, none, some (.noTokens " . "), none, none] ∧
    ∃ hits, (registerCalls overlappingCalls {}).1.search "log." false = .ok hits ∧
      hits.Perm [("LOG.WRITE", .string "A"), ("LOG", .string "B"), ("LOG.WRITE", .string "D")] := by
  have h : ∀ c ∈ overlappingCalls, bucketKey ∉ Purpose.address c.tag := by decide +kernel
  obtain ⟨hraised, -, hsearch⟩ := registerCalls_refines_log overlappingCalls h
  obtain ⟨hits, hok, hperm, -⟩ := hsearch "log." false
  have hlog : selectedLog overlappingCalls "log." false =
      [(["LOG", "WRITE"], "A"), (["LOG"], "B"), (["LOG", "WRITE"], "D")] := by decide +kernel
  refine ⟨h, ?_, hits, hok, ?_⟩
  · rw [hraised]
    decide +kernel
  · rw [hlog] at hperm
    exact hperm

end Exposure.PurposeTree
