import Exposure.Proofs.Purpose.Address
import Exposure.Proofs.Purpose.Faultless
import Exposure.Proofs.Purpose.Registration

/-!
A registered name and the searches that find it. A tag loses its empty tokens when it is
registered; in a pattern they stay, and the first one selects everything below it as long as
nothing but empty tokens is left. So a pattern with the tokens of the tag selects the address of
the tag just if its empty tokens stand at the end, or if the nodes on the way are asked for too.
-/
namespace Exposure.Purpose

/-- No empty token stands before another one. -/
def EmptyAtEnd (pattern : List String) : Prop := pattern.Pairwise fun a b => a = "" → b = ""

instance (pattern : List String) : Decidable (EmptyAtEnd pattern) :=
  inferInstanceAs (Decidable (List.Pairwise _ _))

theorem selects_self (token : String) : selects token token = true := by
  simp [selects]

theorem isTerminal_iff (pattern : List String) :
    isTerminal pattern = true ↔ pattern.filter (· ≠ "") = [] := by
  simp [isTerminal, List.filter_eq_nil_iff]

theorem emptyAtEnd_of_forall {pattern : List String} (h : ∀ q ∈ pattern, q ≠ "") :
    EmptyAtEnd pattern := by
  refine List.pairwise_iff_forall_sublist.2 fun hab hempty => ?_
  exact absurd hempty (h _ (hab.subset List.mem_cons_self))

theorem emptyAtEnd_cons_of_ne {q : String} (hq : q ≠ "") (pattern : List String) :
    EmptyAtEnd (q :: pattern) ↔ EmptyAtEnd pattern := by
  simp [EmptyAtEnd, List.pairwise_cons, hq]

theorem emptyAtEnd_empty_cons (pattern : List String) :
    EmptyAtEnd ("" :: pattern) ↔ isTerminal pattern = true := by
  have hall : isTerminal pattern = true ↔ ∀ b ∈ pattern, b = "" := by simp [isTerminal]
  rw [EmptyAtEnd, List.pairwise_cons, hall]
  refine ⟨fun h b hb => h.1 b hb rfl, fun h => ⟨fun b hb _ => h b hb, ?_⟩⟩
  exact List.pairwise_iff_forall_sublist.2 fun hab _ => h _ (hab.subset (by simp))

end Exposure.Purpose

namespace Exposure.PurposeTree

open Purpose

/-- A pattern with an empty token in front cannot end inside an address of its own tokens. -/
theorem not_isTerminal_drop {pattern : List String} {p : String} {address : List String}
    (h : pattern.filter (· ≠ "") = p :: address) :
    isTerminal (pattern.drop address.length) = false := by
  have hsplit := congrArg List.length
    (congrArg (List.filter (· ≠ "")) (List.take_append_drop address.length pattern))
  rw [List.filter_append, List.length_append, h, List.length_cons] at hsplit
  have hfront : ((pattern.take address.length).filter (· ≠ "")).length ≤ address.length :=
    Nat.le_trans (List.length_filter_le _ _) (List.length_take_le _ _)
  refine Bool.eq_false_iff.2 fun hterminal => ?_
  rw [(isTerminal_iff _).1 hterminal, List.length_nil] at hsplit
  omega

/-- A pattern and the address of its own tokens. -/
theorem selected_tokens_iff (pattern : List String) (ancestors : Bool) :
    Selected pattern (pattern.filter (· ≠ "")) ancestors ↔
      ancestors = true ∨ EmptyAtEnd pattern := by
  induction pattern with
  | nil => simp [selected_nil, isTerminal, EmptyAtEnd]
  | cons q pattern ih =>
      by_cases hq : q = ""
      · subst hq
        rw [emptyAtEnd_empty_cons, List.filter_cons_of_neg (by simp)]
        cases haddr : pattern.filter (· ≠ "") with
        | nil =>
            have hterminal := (isTerminal_iff pattern).2 haddr
            have hcons : isTerminal ("" :: pattern) = true := by
              simpa [isTerminal] using hterminal
            rw [selected_nil, hcons, hterminal, Bool.or_eq_true]
        | cons p address =>
            have hterminal : isTerminal pattern = false := by
              refine Bool.eq_false_iff.2 fun h => ?_
              rw [(isTerminal_iff pattern).1 h] at haddr
              cases haddr
            rw [selected_empty_cons, not_isTerminal_drop haddr, hterminal, Bool.or_eq_true]
      · rw [List.filter_cons_of_pos (by simpa using hq), selected_cons hq, emptyAtEnd_cons_of_ne hq,
          ih, and_iff_right (selects_self q)]

theorem mem_bucketOf_normalMembers {e : Json} {ms : List (String × Json)} (h : e ∈ bucketOf ms) :
    e ∈ bucketOf (normalMembers ms) := by
  unfold bucketOf at h
  split at h
  · rename_i names hbucket
    simpa [bucketOf, get?_normalMembers, hbucket, normalBucket, bucketItems] using h
  · cases h

theorem mem_namesAt_normalMembers {e : Json} {p : List String} (hp : bucketKey ∉ p)
    {ms : List (String × Json)} (h : e ∈ namesAt p ms) : e ∈ namesAt p (normalMembers ms) := by
  induction p generalizing ms with
  | nil => exact mem_bucketOf_normalMembers h
  | cons t ts ih =>
      obtain ⟨ht, hts⟩ := not_or.1 (mt List.mem_cons.2 hp)
      rw [namesAt] at h
      split at h
      · rename_i inner hget
        refine (namesAt_cons ?_ ts).symm ▸ ih hts h
        rw [get?_normalMembers, hget, Option.map_some, if_neg (Ne.symm ht), normalNode]
      · cases h

/-- A search finds what stands at an address that its pattern selects. -/
theorem mem_search_of_selected {t : PurposeTree} (ht : memberFault? t.members = none)
    {p : List String} (hne : p ≠ []) (hp : ∀ x ∈ p, x ≠ "") (hkey : bucketKey ∉ p) {e : Json}
    (he : e ∈ namesAt p t.members) {pattern : String} {ancestors : Bool}
    (hsel : Selected (tokens pattern) p ancestors) :
    ∃ hits, t.search pattern ancestors = .ok hits ∧ (pathOf p, e) ∈ hits := by
  have hmem := mem_namesAt_normalMembers hkey he
  have hplace := mem_nodesBelow_of_namesAt (shaped_of_faultless ht) hne hkey
    (List.ne_nil_of_mem hmem)
  rw [← search_normal, search, normal,
    searchMembers_eq (shaped_of_faultless ht) (.inl (tokens_ne_nil pattern))]
  refine ⟨_, rfl, ?_⟩
  refine List.mem_flatMap.2 ⟨_, List.mem_filter.2 ⟨hplace, ?_⟩, ?_⟩
  · exact (reaches_iff_selected ancestors (tokens pattern) p).2 hsel
  · exact List.mem_map.2 ⟨e, hmem, by rw [foldl_extendPath_empty hne hp]⟩

/-- The trees that an index can have: the empty one, one that was read or handed in without a
fault, and what registrations make of these, also those that fail. -/
inductive Reachable : PurposeTree → Prop where
  | empty : Reachable {}
  | read {v : Json} {t : PurposeTree} : ofJson v = .ok t → Reachable t
  | given {t : PurposeTree} : memberFault? t.members = none → Reachable t
  | register {t : PurposeTree} (tag name : String) :
      Reachable t → Reachable (t.register tag name).1

theorem Reachable.faultless {t : PurposeTree} (h : Reachable t) :
    memberFault? t.members = none := by
  induction h with
  | empty => rfl
  | read h => exact (normal_of_ofJson h).2
  | given h => exact h
  | @register t tag name _ ih =>
      by_cases haddr : address tag = []
      · rw [register_of_address_nil haddr]
        exact ih
      · simp only [register_of_address_ne_nil haddr]
        exact memberFault?_registerBelow name (address tag) ih

/-- A search for the tokens of a tag finds a name that was registered under it, at the written
path of its address, unless empty tokens before others turn it into another search. -/
theorem mem_search_register {t : PurposeTree} (ht : Reachable t) {tag name : String}
    (hkey : bucketKey ∉ address tag) (hok : (t.register tag name).2 = none) {pattern : String}
    (hpattern : (tokens pattern).filter (· ≠ "") = address tag) {ancestors : Bool}
    (hempty : ancestors = true ∨ EmptyAtEnd (tokens pattern)) :
    ∃ hits, (t.register tag name).1.search pattern ancestors = .ok hits ∧
      (pathOf (address tag), .string name) ∈ hits := by
  have hne : address tag ≠ [] := by
    intro haddr
    rw [register_of_address_nil haddr] at hok
    cases hok
  have hmem : .string name ∈ namesAt (address tag) (t.register tag name).1.members := by
    simp only [register_of_address_ne_nil hne, Option.map_eq_none_iff] at hok ⊢
    exact mem_namesAt_registerBelow hok
  refine mem_search_of_selected (ht.register tag name).faultless hne
    (fun x hx => (isName_of_mem_address hx).1) hkey hmem ?_
  rw [← hpattern]
  exact (selected_tokens_iff (tokens pattern) ancestors).2 hempty

/-- The tag without the blanks around it. -/
def stripped (tag : String) : String := String.ofList (Text.strip tag.toList)

/-- A registered name is found by the written path of its tag, and by the tag as it is written if
no empty token stands before another token in it or if the nodes on the way are asked for too. -/
theorem search_register {t : PurposeTree} (ht : Reachable t) {tag name : String}
    (hkey : bucketKey ∉ address tag) (hok : (t.register tag name).2 = none) (ancestors : Bool) :
    (∃ hits, (t.register tag name).1.search (pathOf (address tag)) ancestors = .ok hits ∧
      (pathOf (address tag), .string name) ∈ hits) ∧
    (ancestors = true ∨ EmptyAtEnd (tokens (stripped tag)) →
      ∃ hits, (t.register tag name).1.search (stripped tag) ancestors = .ok hits ∧
        (pathOf (address tag), .string name) ∈ hits) := by
  have hne : address tag ≠ [] := by
    intro haddr
    rw [register_of_address_nil haddr] at hok
    cases hok
  have hnames : ∀ q ∈ address tag, q ≠ "" := fun q hq => (isName_of_mem_address hq).1
  refine ⟨?_, mem_search_register ht hkey hok rfl⟩
  refine mem_search_register ht hkey hok ?_ (.inr ?_)
  · rw [tokens_pathOf_address hne]
    exact List.filter_eq_self.2 fun q hq => decide_eq_true (hnames q hq)
  · rw [tokens_pathOf_address hne]
    exact emptyAtEnd_of_forall hnames

theorem search_register_trailing :
    Reachable (({} : PurposeTree).register "log" "A").1 ∧
      bucketKey ∉ address " log.*.. " ∧
      ((({} : PurposeTree).register "log" "A").1.register " log.*.. " "B").2 = none ∧
      EmptyAtEnd (tokens (stripped " log.*.. ")) ∧
      ∃ hits, ((({} : PurposeTree).register "log" "A").1.register " log.*.. " "B").1.search
        (stripped " log.*.. ") false = .ok hits ∧ ("LOG.*", .string "B") ∈ hits := by
  have hreach : Reachable (({} : PurposeTree).register "log" "A").1 :=
    Reachable.empty.register "log" "A"
  have haddr : address " log.*.. " = ["LOG", "*"] := by decide +kernel
  have hkey : bucketKey ∉ address " log.*.. " := by decide +kernel
  have hempty : EmptyAtEnd (tokens (stripped " log.*.. ")) := by decide +kernel
  have hok : ((({} : PurposeTree).register "log" "A").1.register " log.*.. " "B").2 = none := by
    decide +kernel
  have hpath : pathOf (address " log.*.. ") = "LOG.*" := by rw [haddr]; decide
  refine ⟨hreach, hkey, hok, hempty, ?_⟩
  rw [← hpath]
  exact (search_register hreach hkey hok false).2 (.inr hempty)

/-- Names that are registered under a tag and not found by it: with a leading dot, with a doubled
dot, and with blanks around it. -/
theorem search_own_tag_misses :
    (bucketKey ∉ address ".A" ∧ (({} : PurposeTree).register ".A" "N").2 = none ∧
      (({} : PurposeTree).register ".A" "N").1.search ".A" false = .ok []) ∧
    (bucketKey ∉ address "A..B" ∧ (({} : PurposeTree).register "A..B" "N").2 = none ∧
      (({} : PurposeTree).register "A..B" "N").1.search "A..B" false = .ok []) ∧
    (bucketKey ∉ address " A " ∧ (({} : PurposeTree).register " A " "N").2 = none ∧
      (({} : PurposeTree).register " A " "N").1.search " A " false = .ok []) := by
  have haddr : address ".A" = ["A"] ∧ address "A..B" = ["A", "B"] ∧ address " A " = ["A"] := by
    decide +kernel
  have hpattern : tokens ".A" = ["", "A"] ∧ tokens "A..B" = ["A", "", "B"] ∧
      tokens " A " = [" A "] := by decide +kernel
  have hsingle {tag : String} (htag : address tag = ["A"]) : ({} : PurposeTree).register tag "N" =
      (⟨[("A", .object [(bucketKey, .array [.string "N"])])]⟩, none) := by
    rw [register_of_address_ne_nil (by simp [htag]), htag]
    rfl
  have hdoubled : ({} : PurposeTree).register "A..B" "N" =
      (⟨[("A", .object [(bucketKey, .array []),
        ("B", .object [(bucketKey, .array [.string "N"])])])]⟩, none) := by
    rw [register_of_address_ne_nil (by simp [haddr.2.1]), haddr.2.1]
    rfl
  refine ⟨?_, ?_, ?_⟩
  · rw [haddr.1, hsingle haddr.1, search, hpattern.1]
    simp [searchMembers, searchNode, isTerminal, bucketKey, bind, Except.bind]
  · rw [haddr.2.1, hdoubled, search, hpattern.2.1]
    simp [searchMembers, searchNode, isTerminal, bucketKey, selects_self, bind, Except.bind]
  · have hblank : selects " A " "A" = false := by decide +kernel
    rw [haddr.2.2, hsingle haddr.2.2, search, hpattern.2.2]
    simp [searchMembers, bucketKey, hblank]

end Exposure.PurposeTree
