import Exposure.Proofs.Purpose.Address
import Exposure.Proofs.Purpose.Selection
import Mathlib.Data.List.Basic

/-!
What a search gives, as a list. A tree is walked depth first, a node's names before those of its
children; the search leaves out the names at addresses that the pattern does not select and
changes nothing else.
-/
namespace Exposure.PurposeTree

open Purpose

variable {entry : Json → Prop}

/-- The entries below a node with these members, each with the address of its bucket, in the order
of a depth first walk. The node's own bucket has no address and is not among them. -/
def entriesBelow (ms : List (String × Json)) : List (List String × Json) :=
  (nodesBelow ms).flatMap fun n => n.2.map fun e => (n.1, e)

/-- The entries of a tree at the addresses that a pattern selects, with their written paths. -/
def selectedHits (t : PurposeTree) (pattern : String) (ancestors : Bool) : List Hit :=
  ((entriesBelow t.members).filter fun e => Selected (tokens pattern) e.1 ancestors).map
    fun e => (pathOf e.1, e.2)

theorem Selected.mono {pattern address : List String} {ancestors : Bool}
    (h : Selected pattern address ancestors) : Selected pattern address true :=
  ⟨h.matching, h.depth, .inl rfl⟩

theorem selectedHits_sublist (t : PurposeTree) (pattern : String) (ancestors : Bool) :
    (selectedHits t pattern ancestors).Sublist (selectedHits t pattern true) := by
  refine List.Sublist.map _ (List.monotone_filter_right _ fun e he => ?_)
  exact decide_eq_true (of_decide_eq_true he : Selected _ _ _).mono

theorem filter_entriesBelow (keep : List String → Bool) (ms : List (String × Json)) :
    ((entriesBelow ms).filter fun e => keep e.1) =
      ((nodesBelow ms).filter fun n => keep n.1).flatMap fun n => n.2.map fun e => (n.1, e) := by
  rw [entriesBelow]
  induction nodesBelow ms with
  | nil => rfl
  | cons n ns ih =>
      rw [List.flatMap_cons, List.filter_append, ih, List.filter_cons]
      cases hkeep : keep n.1 <;> simp [List.filter_map, Function.comp_def, hkeep]

/-- A search of a tree with buckets of any kind gives its selected entries, in their order. -/
theorem search_eq_selectedHits {t : PurposeTree} (h : Shaped (· ≠ "") entry t.members)
    (pattern : String) (ancestors : Bool) :
    t.search pattern ancestors = .ok (selectedHits t pattern ancestors) := by
  have hplace : ∀ n ∈ nodesBelow t.members,
      hitsAt "" n = (n.2.map fun e => (n.1, e)).map fun e => (pathOf e.1, e.2) := by
    intro n hn
    obtain ⟨hne, htok⟩ := tokens_of_mem_nodesBelow h hn
    rw [hitsAt, foldl_extendPath_empty hne fun x hx => (htok x hx).2, List.map_map]
    rfl
  rw [search, searchMembers_eq h (.inl (tokens_ne_nil pattern)), selectedHits]
  simp only [← reaches_iff_selected, Bool.decide_eq_true]
  rw [filter_entriesBelow, List.map_flatMap]
  exact congrArg _ (List.flatMap_congr fun n hn => hplace n (List.mem_filter.1 hn).1)

/-- What a search of any purpose tree gives: the entries of a depth first walk at the addresses
that the pattern selects, so a search that asks for the nodes on the way gives no less. -/
theorem search_eq_selected {t : PurposeTree} (h : Shaped (· ≠ "") (fun _ => True) t.members)
    (pattern : String) :
    (∀ ancestors, t.search pattern ancestors = .ok (selectedHits t pattern ancestors)) ∧
      (selectedHits t pattern false).Sublist (selectedHits t pattern true) :=
  ⟨search_eq_selectedHits h pattern, selectedHits_sublist t pattern false⟩

/-- A tree with names at its root, below keys with a dot and with a glob, and with one that no
registration makes. -/
def looseTree : PurposeTree :=
  ⟨[(bucketKey, .array [.string "root"]),
    ("LOG", .object [
      ("WRITE", .object [(bucketKey, .array [.string "Write"]),
        ("A.B", .object [(bucketKey, .array [.string "Deep"])])]),
      (bucketKey, .array [.string "Log"]),
      ("#2", .object [])]),
    ("L*", .object [(bucketKey, .array [.string "Glob", .int 7])])]⟩

theorem shaped_looseTree : Shaped (· ≠ "") (fun _ => True) looseTree.members := by
  have hbucket {ms : List (String × Json)} {es : List Json}
      (h : Assoc.get? bucketKey ms = some (.array es)) : HasBucket (fun _ => True) ms := by
    intro v hv
    exact ⟨es, Option.some.inj (hv.symm.trans h), fun _ _ => trivial⟩
  refine .bucket (.node (by decide) (by decide) (hbucket rfl) ?_ ?_)
  · refine .node (by decide) (by decide) (hbucket rfl) ?_ ?_
    · exact .bucket (.node (by decide) (by decide) (hbucket rfl) (.bucket .nil) .nil)
    · exact .bucket (.node (by decide) (by decide) (hasBucket_of_notMem (by decide)) .nil .nil)
  · exact .node (by decide) (by decide) (hbucket rfl) (.bucket .nil) .nil

theorem entriesBelow_looseTree :
    entriesBelow looseTree.members = [(["LOG"], .string "Log"),
      (["LOG", "WRITE"], .string "Write"), (["LOG", "WRITE", "A.B"], .string "Deep"),
      (["L*"], .string "Glob"), (["L*"], .int 7)] := by
  simp [entriesBelow, looseTree, nodesBelow, bucketOf, Assoc.get?, bucketKey, Place.under]

theorem search_eq_selected_loose :
    Shaped (· ≠ "") (fun _ => True) looseTree.members ∧
      looseTree.search "log." false = .ok [("LOG", .string "Log"), ("LOG.WRITE", .string "Write"),
        ("LOG.WRITE.A.B", .string "Deep")] ∧
      looseTree.search "L?g*.w*" true = .ok [("LOG", .string "Log"),
        ("LOG.WRITE", .string "Write")] := by
  have hpaths : pathOf ["LOG"] = "LOG" ∧ pathOf ["LOG", "WRITE"] = "LOG.WRITE" ∧
      pathOf ["LOG", "WRITE", "A.B"] = "LOG.WRITE.A.B" := by decide
  have hlog : ∀ p ∈ [["LOG"], ["LOG", "WRITE"], ["LOG", "WRITE", "A.B"], ["L*"]],
      Selected (tokens "log.") p false ↔ p ≠ ["L*"] := by decide +kernel
  have hglob : ∀ p ∈ [["LOG"], ["LOG", "WRITE"], ["LOG", "WRITE", "A.B"], ["L*"]],
      Selected (tokens "L?g*.w*") p true ↔ p = ["LOG"] ∨ p = ["LOG", "WRITE"] := by
    decide +kernel
  simp only [List.forall_mem_cons] at hlog hglob
  refine ⟨shaped_looseTree, ?_, ?_⟩
  · rw [(search_eq_selected shaped_looseTree "log.").1 false]
    simp [selectedHits, entriesBelow_looseTree, hlog, hpaths]
  · rw [(search_eq_selected shaped_looseTree "L?g*.w*").1 true]
    simp [selectedHits, entriesBelow_looseTree, hglob, hpaths]

end Exposure.PurposeTree
