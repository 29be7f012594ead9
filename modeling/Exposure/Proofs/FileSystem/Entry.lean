import Exposure.FileSystem.Resolve
import Mathlib.Data.List.Nodup
import Mathlib.Data.List.Flatten

/-!
Trees of entries. The list of descendants and the look-up at a position are two views of one tree:
where no directory has a name twice, an entry is listed just under the position that it is found at.
-/
namespace Exposure

/-- A name that a directory can list. -/
structure IsEntryName (name : String) : Prop where
  notEmpty : name ≠ ""
  notDot : name ≠ "."
  notDots : name ≠ ".."
  noSlash : '/' ∉ name.toList
  noNul : Char.ofNat 0 ∉ name.toList

instance (name : String) : Decidable (IsEntryName name) :=
  decidable_of_iff (name ≠ "" ∧ name ≠ "." ∧ name ≠ ".." ∧ '/' ∉ name.toList ∧
      Char.ofNat 0 ∉ name.toList)
    ⟨fun ⟨a, b, c, d, e⟩ => ⟨a, b, c, d, e⟩, fun ⟨a, b, c, d, e⟩ => ⟨a, b, c, d, e⟩⟩

namespace Entry

/-- Every directory of the tree lists each name once, and only names that it can list. -/
def WellFormed (e : Entry) : Prop :=
  ∀ position cs, e.at? position = some (.directory cs) →
    (Assoc.keys cs).Nodup ∧ ∀ name ∈ Assoc.keys cs, IsEntryName name

/-- Induction over an entry with the entries that it lists. -/
@[elab_as_elim]
theorem entry_induction {motive : Entry → Prop} (file : ∀ bytes, motive (.file bytes))
    (link : ∀ target, motive (.link target))
    (directory : ∀ cs, (∀ c ∈ cs, motive c.2) → motive (.directory cs)) : ∀ e, motive e
  | .file bytes => file bytes
  | .link target => link target
  | .directory cs => directory cs fun c hc =>
      have : sizeOf c.2 < sizeOf c := by
        cases c
        simp only [Prod.mk.sizeOf_spec]
        omega
      have : sizeOf c < sizeOf cs := List.sizeOf_lt_of_mem hc
      entry_induction file link directory c.2
termination_by e => sizeOf e
decreasing_by
  simp only [Entry.directory.sizeOf_spec]
  omega

theorem at?_append (e : Entry) (p q : List String) :
    e.at? (p ++ q) = (e.at? p).bind (at? q) := by
  induction p generalizing e with
  | nil => rfl
  | cons name p ih =>
      simp only [List.cons_append, at?]
      cases Assoc.get? name e.children with
      | none => rfl
      | some child => exact ih child

theorem at?_concat (e : Entry) (p : List String) (name : String) :
    e.at? (p ++ [name]) = (e.at? p).bind fun d => Assoc.get? name d.children := by
  rw [at?_append]
  congr 1
  funext d
  simp only [at?]
  cases Assoc.get? name d.children <;> rfl

/-- What is found in a directory is found one name further. -/
theorem at?_concat_directory {e : Entry} {p : List String} {cs : List (String × Entry)}
    (h : e.at? p = some (.directory cs)) (name : String) :
    e.at? (p ++ [name]) = Assoc.get? name cs := by
  rw [at?_concat, h]
  rfl

/-- Only a directory has anything further on. -/
theorem at?_eq_directory_of_append {e x : Entry} {p q : List String} (hq : q ≠ [])
    (h : e.at? (p ++ q) = some x) : ∃ cs, e.at? p = some (.directory cs) := by
  obtain ⟨name, q, rfl⟩ := List.exists_cons_of_ne_nil hq
  rw [at?_append] at h
  obtain ⟨d, hd, hx⟩ := Option.bind_eq_some_iff.1 h
  cases d with
  | directory cs => exact ⟨cs, hd⟩
  | file bytes => cases hx
  | link target => cases hx

theorem WellFormed.at? {e d : Entry} (h : e.WellFormed) {p : List String}
    (hd : e.at? p = some d) : d.WellFormed := by
  intro q cs hcs
  refine h (p ++ q) cs ?_
  rw [at?_append, hd]
  exact hcs

theorem WellFormed.children {cs : List (String × Entry)} (h : (directory cs).WellFormed) :
    (Assoc.keys cs).Nodup ∧ (∀ name ∈ Assoc.keys cs, IsEntryName name) ∧
      ∀ c ∈ cs, c.2.WellFormed := by
  obtain ⟨hnodup, hnames⟩ := h [] cs rfl
  refine ⟨hnodup, hnames, fun c hc => h.at? (p := [c.1]) ?_⟩
  rw [Entry.at?, Entry.children, Assoc.get?_of_mem hnodup hc]
  rfl

theorem wellFormed_directory {cs : List (String × Entry)} (hnodup : (Assoc.keys cs).Nodup)
    (hnames : ∀ name ∈ Assoc.keys cs, IsEntryName name) (hcs : ∀ c ∈ cs, c.2.WellFormed) :
    (directory cs).WellFormed := by
  intro position ds hds
  cases position with
  | nil =>
      cases hds
      exact ⟨hnodup, hnames⟩
  | cons name rest =>
      obtain ⟨child, hchild, hrest⟩ := Option.bind_eq_some_iff.1 hds
      exact hcs _ (Assoc.mem_of_get? hchild) rest ds hrest

theorem wellFormed_file (bytes : ByteArray) : (file bytes).WellFormed := by
  rintro (_ | ⟨name, rest⟩) cs h <;> cases h

theorem wellFormed_link (target : String) : (link target).WellFormed := by
  rintro (_ | ⟨name, rest⟩) cs h <;> cases h

/-- Names on the way to an entry are names that a directory can list. -/
theorem WellFormed.isEntryName {e x : Entry} (h : e.WellFormed) {p : List String}
    (hx : e.at? p = some x) : ∀ name ∈ p, IsEntryName name := by
  induction p generalizing e with
  | nil => exact fun _ hname => absurd hname List.not_mem_nil
  | cons first rest ih =>
      obtain ⟨child, hchild, hrest⟩ := Option.bind_eq_some_iff.1 hx
      cases e with
      | file bytes => cases hchild
      | link target => cases hchild
      | directory cs =>
          obtain ⟨-, hnames, hcs⟩ := h.children
          have hmem : (first, child) ∈ cs := Assoc.mem_of_get? hchild
          intro name hname
          rcases List.mem_cons.1 hname with rfl | hname
          · exact hnames _ (List.mem_map_of_mem hmem)
          · exact ih (hcs _ hmem) hrest name hname

theorem childDescendants_eq (at_ : List String) (cs : List (String × Entry)) :
    childDescendants at_ cs =
      cs.flatMap fun c => (at_ ++ [c.1], c.2) :: descendants (at_ ++ [c.1]) c.2 := by
  induction cs with
  | nil => rfl
  | cons c cs ih => rw [childDescendants, ih, List.flatMap_cons]

theorem mem_descendants_directory {at_ p : List String} {x : Entry}
    {cs : List (String × Entry)} :
    (p, x) ∈ descendants at_ (.directory cs) ↔
      ∃ c ∈ cs, (p, x) = (at_ ++ [c.1], c.2) ∨ (p, x) ∈ descendants (at_ ++ [c.1]) c.2 := by
  rw [descendants, childDescendants_eq, List.mem_flatMap]
  simp only [List.mem_cons]

/-- What is found at a position further on is listed. -/
theorem mem_descendants_of_at? {e x : Entry} {q : List String} (hq : q ≠ [])
    (h : e.at? q = some x) (at_ : List String) : (at_ ++ q, x) ∈ e.descendants at_ := by
  induction q generalizing e at_ with
  | nil => exact absurd rfl hq
  | cons name rest ih =>
      obtain ⟨child, hchild, hrest⟩ := Option.bind_eq_some_iff.1 h
      cases e with
      | file bytes => cases hchild
      | link target => cases hchild
      | directory cs =>
          refine mem_descendants_directory.2 ⟨_, Assoc.mem_of_get? hchild, ?_⟩
          cases rest with
          | nil =>
              cases hrest
              exact .inl rfl
          | cons next rest =>
              have hbelow := ih (List.cons_ne_nil next rest) hrest (at_ ++ [name])
              rw [List.append_cons]
              exact .inr hbelow

/-- What is listed is found at its position. -/
theorem at?_of_mem_descendants {e x : Entry} (he : e.WellFormed) {at_ p : List String}
    (h : (p, x) ∈ e.descendants at_) : ∃ q, q ≠ [] ∧ p = at_ ++ q ∧ e.at? q = some x := by
  induction e using entry_induction generalizing at_ with
  | file bytes => cases h
  | link target => cases h
  | directory cs ih =>
      obtain ⟨hnodup, -, hcs⟩ := he.children
      obtain ⟨c, hc, heq | hbelow⟩ := mem_descendants_directory.1 h
      · cases heq
        refine ⟨[c.1], List.cons_ne_nil _ _, rfl, ?_⟩
        rw [at?, children, Assoc.get?_of_mem hnodup hc]
        rfl
      · obtain ⟨q, -, rfl, hq⟩ := ih c hc (hcs c hc) hbelow
        refine ⟨c.1 :: q, List.cons_ne_nil _ _, by simp, ?_⟩
        rw [at?, children, Assoc.get?_of_mem hnodup hc]
        exact hq

theorem mem_descendants {e x : Entry} (he : e.WellFormed) {p : List String} :
    (p, x) ∈ e.descendants [] ↔ p ≠ [] ∧ e.at? p = some x := by
  constructor
  · intro h
    obtain ⟨q, hq, rfl, hx⟩ := at?_of_mem_descendants he h
    exact ⟨hq, hx⟩
  · rintro ⟨hp, hx⟩
    exact mem_descendants_of_at? hp hx []

/-- No position is listed twice. -/
theorem nodup_descendants {e : Entry} (he : e.WellFormed) (at_ : List String) :
    ((e.descendants at_).map Prod.fst).Nodup := by
  induction e using entry_induction generalizing at_ with
  | file bytes => exact List.nodup_nil
  | link target => exact List.nodup_nil
  | directory cs ih =>
      obtain ⟨hnodup, -, hcs⟩ := he.children
      -- whatever a child contributes begins with the position of the child
      have hprefix : ∀ c ∈ cs, ∀ p ∈ ((at_ ++ [c.1], c.2) ::
          descendants (at_ ++ [c.1]) c.2).map Prod.fst, (at_ ++ [c.1]) <+: p := by
        intro c hc p hp
        obtain ⟨⟨p, x⟩, hmem, rfl⟩ := List.mem_map.1 hp
        rcases List.mem_cons.1 hmem with heq | hbelow
        · cases heq
          exact List.prefix_rfl
        · obtain ⟨q, -, rfl, -⟩ := at?_of_mem_descendants (hcs c hc) hbelow
          exact List.prefix_append _ _
      rw [descendants, childDescendants_eq, List.map_flatMap, List.nodup_flatMap]
      refine ⟨fun c hc => ?_, ?_⟩
      · rw [List.map_cons, List.nodup_cons]
        refine ⟨fun hmem => ?_, ih c hc (hcs c hc) _⟩
        obtain ⟨⟨p, x⟩, hmem, hp⟩ := List.mem_map.1 hmem
        obtain ⟨q, hq, rfl, -⟩ := at?_of_mem_descendants (hcs c hc) hmem
        exact hq (List.append_right_eq_self.1 hp)
      · refine (List.pairwise_map.1 hnodup).imp_of_mem fun {c d} hc hd hne => ?_
        intro p hp hp'
        have hc' := hprefix c hc p hp
        have hd' := hprefix d hd p hp'
        have heq : at_ ++ [c.1] = at_ ++ [d.1] :=
          (List.prefix_of_prefix_length_le hc' hd' (by simp)).eq_of_length (by simp)
        exact hne (by simpa using heq)

end Entry
end Exposure
