import Exposure.Proofs.Purpose.Address
import Exposure.Proofs.Purpose.Nodes
import Exposure.Purpose.Tree

/-!
Which addresses a pattern selects, said without the search, and the search as the list of places
with all others left out. The search decides at each node whether to go on; `reaches` follows its
decisions along one address and `Selected` says what they come to.
-/
namespace Exposure.PurposeTree

open Purpose

/-- Tokens of a pattern select an address: up to its first empty token the pattern matches token
by token; it is as long as the address or has an empty token; and nothing but empty tokens is left
of it behind the address, unless nodes on the way are asked for too. -/
structure Selected (pattern address : List String) (ancestors : Bool) : Prop where
  matching : ∀ (j : Nat) (q p : String), pattern[j]? = some q → address[j]? = some p →
    (∀ i ≤ j, pattern[i]? ≠ some "") → selects q p = true
  depth : address.length ≤ pattern.length ∨ "" ∈ pattern
  terminal : ancestors = true ∨ ∀ q ∈ pattern.drop address.length, q = ""

/-- The search gets to the address and gives its names. `passing` is set below an empty token. -/
def reaches (passing ancestors : Bool) : List String → List String → Bool
  | pattern, [] => ancestors || isTerminal pattern
  | [], _ :: address => passing && reaches passing ancestors [] address
  | q :: pattern, p :: address =>
    (passing || q == "" || selects q p) && reaches (passing || q == "") ancestors pattern address

theorem reaches_cons {passing : Bool} {pattern : List String} (h : pattern ≠ [] ∨ passing = true)
    (ancestors : Bool) (p : String) (address : List String) :
    reaches passing ancestors pattern (p :: address) =
      ((passing || pattern.headD "" == "" || selects (pattern.headD "") p) &&
        reaches (passing || pattern.headD "" == "") ancestors pattern.tail address) := by
  cases pattern with
  | nil =>
      have hp : passing = true := h.resolve_left (fun hne => hne rfl)
      simp [reaches, hp]
  | cons q pattern => rfl

theorem reaches_nil_cons (ancestors : Bool) (p : String) (address : List String) :
    reaches false ancestors [] (p :: address) = false := rfl

theorem reaches_passing (ancestors : Bool) (pattern address : List String) :
    reaches true ancestors pattern address =
      (ancestors || isTerminal (pattern.drop address.length)) := by
  induction address generalizing pattern with
  | nil => cases pattern <;> rfl
  | cons p address ih => cases pattern <;> simp [reaches, ih]

theorem selected_nil (pattern : List String) (ancestors : Bool) :
    Selected pattern [] ancestors ↔ (ancestors || isTerminal pattern) = true := by
  constructor
  · intro h
    simpa [isTerminal] using h.terminal
  · intro h
    exact ⟨fun j q p _ hp => (by cases hp), .inl (Nat.zero_le _), by simpa [isTerminal] using h⟩

theorem not_selected_nil_cons (p : String) (address : List String) (ancestors : Bool) :
    ¬Selected [] (p :: address) ancestors := by
  intro h
  rcases h.depth with h | h
  · exact Nat.not_succ_le_zero _ h
  · cases h

theorem selected_empty_cons (pattern : List String) (p : String) (address : List String)
    (ancestors : Bool) :
    Selected ("" :: pattern) (p :: address) ancestors ↔
      (ancestors || isTerminal (pattern.drop address.length)) = true := by
  constructor
  · intro h
    simpa [isTerminal] using h.terminal
  · intro h
    exact ⟨fun j q r _ _ hne => absurd rfl (hne 0 (Nat.zero_le j)), .inr (by simp),
      by simpa [isTerminal] using h⟩

theorem selected_cons {q : String} (hq : q ≠ "") (pattern : List String) (p : String)
    (address : List String) (ancestors : Bool) :
    Selected (q :: pattern) (p :: address) ancestors ↔
      selects q p = true ∧ Selected pattern address ancestors := by
  constructor
  · intro h
    have hfirst : selects q p = true := by
      refine h.matching 0 q p rfl rfl fun i hi => ?_
      rw [Nat.le_zero.1 hi]
      simpa using hq
    refine ⟨hfirst, ⟨fun j x y hx hy hne => ?_, ?_, h.terminal⟩⟩
    · refine h.matching (j + 1) x y hx hy fun i hi => ?_
      cases i with
      | zero => simpa using hq
      | succ i => exact hne i (Nat.le_of_succ_le_succ hi)
    · rcases h.depth with hd | hd
      · exact .inl (Nat.le_of_succ_le_succ hd)
      · exact .inr ((List.mem_cons.1 hd).resolve_left (Ne.symm hq))
  · rintro ⟨hfirst, h⟩
    refine ⟨fun j x y hx hy hne => ?_, ?_, h.terminal⟩
    · cases j with
      | zero =>
          cases hx
          cases hy
          exact hfirst
      | succ j => exact h.matching j x y hx hy fun i hi => hne (i + 1) (Nat.succ_le_succ hi)
    · rcases h.depth with hd | hd
      · exact .inl (Nat.succ_le_succ hd)
      · exact .inr (List.mem_cons_of_mem _ hd)

theorem reaches_iff_selected (ancestors : Bool) (pattern address : List String) :
    reaches false ancestors pattern address = true ↔ Selected pattern address ancestors := by
  induction address generalizing pattern with
  | nil => cases pattern <;> exact (selected_nil _ ancestors).symm
  | cons p address ih =>
      cases pattern with
      | nil =>
          rw [reaches_nil_cons]
          exact ⟨fun h => absurd h Bool.false_ne_true,
            fun h => absurd h (not_selected_nil_cons p address ancestors)⟩
      | cons q pattern =>
          by_cases hq : q = ""
          · subst hq
            rw [selected_empty_cons, ← reaches_passing]
            simp [reaches]
          · rw [selected_cons hq, ← ih]
            simp [reaches, beq_false_of_ne hq]

instance (pattern address : List String) (ancestors : Bool) :
    Decidable (Selected pattern address ancestors) :=
  decidable_of_iff _ (reaches_iff_selected ancestors pattern address)

/-- The hits at a place, which is given from a node with the given path. -/
def hitsAt (path : String) (n : Place) : List Hit :=
  n.2.map fun e => (n.1.foldl extendPath path, e)

variable {token : String → Prop} {entry : Json → Prop}

theorem ownEntries_eq {inner : List (String × Json)} (h : HasBucket entry inner) (path : String) :
    ownEntries path (.object inner) = .ok ((bucketOf inner).map fun e => (path, e)) := by
  cases hb : Assoc.get? bucketKey inner with
  | none => simp only [ownEntries, bucketOf, hb, List.map_nil]
  | some v =>
      obtain ⟨es, rfl, -⟩ := h v hb
      simp only [ownEntries, bucketOf, hb, bucketItems, Except.map]

theorem hits_under {pattern : List String} {passing : Bool} (hp : pattern ≠ [] ∨ passing = true)
    {key : String}
    (hsel : (passing || pattern.headD "" == "" || selects (pattern.headD "") key) = true)
    (path : String) (ancestors : Bool) (names : List Json) (ns : List Place) :
    ((Place.under key ([], names) :: ns.map (Place.under key)).filter fun n =>
        reaches passing ancestors pattern n.1).flatMap (hitsAt path) =
      (if (ancestors || isTerminal pattern.tail) = true then
        names.map fun e => (extendPath path key, e) else []) ++
      (ns.filter fun n => reaches (passing || pattern.headD "" == "") ancestors pattern.tail
        n.1).flatMap (hitsAt (extendPath path key)) := by
  have hcons (n : Place) : reaches passing ancestors pattern (Place.under key n).1 =
      reaches (passing || pattern.headD "" == "") ancestors pattern.tail n.1 := by
    rw [Place.under, reaches_cons hp, hsel, Bool.true_and]
  have hmap : ((ns.map (Place.under key)).filter fun n =>
      reaches passing ancestors pattern n.1) = (ns.filter fun n =>
        reaches (passing || pattern.headD "" == "") ancestors pattern.tail n.1).map
          (Place.under key) := by
    rw [List.filter_map]
    simp only [Function.comp_def, hcons]
  have hown : reaches (passing || pattern.headD "" == "") ancestors pattern.tail [] =
      (ancestors || isTerminal pattern.tail) := by
    cases pattern.tail <;> rfl
  rw [List.filter_cons, hcons, hown, hmap]
  split <;> simp only [List.flatMap_cons, List.flatMap_map, List.nil_append] <;> rfl

theorem no_hits_under {pattern : List String} {passing : Bool} (hp : pattern ≠ [] ∨ passing = true)
    {key : String}
    (hsel : (passing || pattern.headD "" == "" || selects (pattern.headD "") key) = false)
    (ancestors : Bool) (n : Place) :
    reaches passing ancestors pattern (Place.under key n).1 = false := by
  rw [Place.under, reaches_cons hp, hsel, Bool.false_and]

theorem filter_reaches_nil {ms : List (String × Json)} (h : Shaped token entry ms)
    (ancestors : Bool) : ((nodesBelow ms).filter fun n => reaches false ancestors [] n.1) = [] := by
  rw [List.filter_eq_nil_iff]
  intro n hn
  obtain ⟨p, address, haddr⟩ := List.exists_cons_of_ne_nil (tokens_of_mem_nodesBelow h hn).1
  simp [haddr, reaches_nil_cons]

/-- A search that has used up its pattern ends at a node; any other goes on to the children. -/
theorem searchNode_eq {inner : List (String × Json)} (h : Shaped token entry inner)
    (pattern : List String) (passing : Bool) {path : String} {ancestors : Bool}
    (ih : pattern ≠ [] ∨ passing = true →
      searchMembers pattern path passing ancestors inner =
        .ok (((nodesBelow inner).filter fun n => reaches passing ancestors pattern n.1).flatMap
          (hitsAt path))) :
    searchNode pattern path passing ancestors (.object inner) =
      .ok (((nodesBelow inner).filter fun n => reaches passing ancestors pattern n.1).flatMap
        (hitsAt path)) := by
  by_cases hend : pattern = [] ∧ passing = false
  · obtain ⟨rfl, rfl⟩ := hend
    simp [searchNode, filter_reaches_nil h]
  · have hgo : pattern ≠ [] ∨ passing = true := by
      by_cases hpat : pattern = []
      · exact .inr (by simpa [hpat] using hend)
      · exact .inl hpat
    rw [searchNode, if_neg]
    · exact ih hgo
    · rintro hstop
      simp only [Bool.and_eq_true, List.isEmpty_iff, Bool.not_eq_true'] at hstop
      exact hend hstop

/-- What the search finds below a node: the hits of the places that it reaches, in their order. -/
theorem searchMembers_eq {ms : List (String × Json)} (h : Shaped token entry ms)
    {pattern : List String} {passing : Bool} (hp : pattern ≠ [] ∨ passing = true)
    (path : String) (ancestors : Bool) :
    searchMembers pattern path passing ancestors ms =
      .ok (((nodesBelow ms).filter fun n => reaches passing ancestors pattern n.1).flatMap
        (hitsAt path)) := by
  induction h generalizing pattern passing path with
  | nil => simp [searchMembers, nodesBelow_nil]
  | bucket _ ih => simpa [searchMembers, nodesBelow_bucket] using ih hp path
  | @node key inner rest hk _ hb hi _ ihi ihr =>
      rw [nodesBelow_node hk, List.filter_append, List.flatMap_append, searchMembers]
      cases hsel : passing || pattern.headD "" == "" || selects (pattern.headD "") key with
      | true =>
          -- The child is selected: its own names come first, then those below it.
          have hbelow := searchNode_eq hi pattern.tail (passing || pattern.headD "" == "")
            fun hgo => ihi hgo (extendPath path key)
          rw [if_pos ⟨hk, by simpa only [Bool.or_eq_true] using hsel⟩, hits_under hp hsel]
          simp only [ownEntries_eq hb, hbelow, ihr hp path]
          split <;> rfl
      | false =>
          have hnone : ((Place.under key ([], bucketOf inner) ::
              (nodesBelow inner).map (Place.under key)).filter fun n =>
                reaches passing ancestors pattern n.1) = [] := by
            rw [List.filter_eq_nil_iff]
            intro n hn
            rcases List.mem_cons.1 hn with rfl | hn
            · simp [no_hits_under hp hsel]
            · obtain ⟨m, -, rfl⟩ := List.mem_map.1 hn
              simp [no_hits_under hp hsel]
          rw [if_neg (fun h => by simp_all), hnone, ihr hp path]
          rfl

/-- A search of a well shaped tree succeeds and finds entries of the tree only. -/
theorem entry_of_search {t : PurposeTree} (h : Shaped token entry t.members) (pattern : String)
    (ancestors : Bool) :
    ∃ hits, t.search pattern ancestors = .ok hits ∧ ∀ hit ∈ hits, entry hit.2 := by
  refine ⟨_, searchMembers_eq h (.inl (tokens_ne_nil pattern)) "" ancestors, ?_⟩
  intro hit hhit
  obtain ⟨n, hn, hmem⟩ := List.mem_flatMap.1 hhit
  obtain ⟨e, he, rfl⟩ := List.mem_map.1 hmem
  exact entry_of_mem_nodesBelow h (List.mem_filter.1 hn).1 he

end Exposure.PurposeTree
