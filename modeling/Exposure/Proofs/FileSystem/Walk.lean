import Exposure.FileSystem.Resolve
import Exposure.Proofs.FileSystem.Entry

/-!
Paths that lead somewhere. `Leads` takes a path apart as resolving does: at a link the target is
followed to its end, and then the rest of the path. A path that can be opened leads somewhere, and
where a path leads to is its real path: a link that comes up again while it is being followed would
make the way longer than itself.
-/
namespace Exposure.FileSystem

/-- Where the components of a link's target start. -/
def targetStart (at_ : List String) (target : String) : List String :=
  if (Path.ofString target).isAbsolute then [] else at_

/-- Components lead from one position to another through a number of links. -/
inductive Leads (root : Entry) : List String → List String → Nat → List String → Prop
  | done (at_ : List String) : Leads root at_ [] 0 at_
  | up {at_ rest p : List String} {n : Nat} :
      Leads root at_.dropLast rest n p → Leads root at_ (".." :: rest) n p
  | link {at_ rest mid p : List String} {name target : String} {n m : Nat} :
      name ≠ ".." → root.at? (at_ ++ [name]) = some (.link target) →
      Leads root (targetStart at_ target) (Path.ofString target).parts n mid →
      Leads root mid rest m p → Leads root at_ (name :: rest) (n + m + 1) p
  | step {at_ rest p : List String} {name : String} {n : Nat} :
      name ≠ ".." → (∀ target, root.at? (at_ ++ [name]) ≠ some (.link target)) →
      Leads root (at_ ++ [name]) rest n p → Leads root at_ (name :: rest) n p

variable {root : Entry}

theorem ne_link_of_any {position : List String}
    (h : (root.at? position).any (·.isLink) = false) (target : String) :
    root.at? position ≠ some (.link target) := by
  intro hlink
  rw [hlink] at h
  cases h

theorem Leads.pass {at_ rest p : List String} {name : String} {n : Nat} (hname : name ≠ "..")
    (h : (root.at? (at_ ++ [name])).any (·.isLink) = false)
    (hrest : Leads root (at_ ++ [name]) rest n p) : Leads root at_ (name :: rest) n p :=
  .step hname (ne_link_of_any h) hrest

theorem Leads.append {at_ xs mid ys p : List String} {n m : Nat} (h : Leads root at_ xs n mid)
    (h' : Leads root mid ys m p) : Leads root at_ (xs ++ ys) (n + m) p := by
  induction h with
  | done at_ => rwa [Nat.zero_add]
  | up _ ih => exact .up (ih h')
  | link hname hlink htarget _ _ ih =>
      have hrest := Leads.link hname hlink htarget (ih h')
      rwa [← Nat.add_assoc, Nat.add_right_comm] at hrest
  | step hname hlink _ ih => exact .step hname hlink (ih h')

theorem Leads.split {at_ xs ys p : List String} {n : Nat} (h : Leads root at_ (xs ++ ys) n p) :
    ∃ mid k m, Leads root at_ xs k mid ∧ Leads root mid ys m p ∧ n = k + m := by
  induction xs generalizing at_ n with
  | nil => exact ⟨at_, 0, n, .done at_, h, (Nat.zero_add n).symm⟩
  | cons x xs ih =>
      cases h with
      | up hrest =>
          obtain ⟨mid, k, m, hxs, hys, rfl⟩ := ih hrest
          exact ⟨mid, k, m, .up hxs, hys, rfl⟩
      | @link _ _ start _ _ target a b hname hlink htarget hrest =>
          obtain ⟨mid, k, m, hxs, hys, rfl⟩ := ih hrest
          exact ⟨mid, a + k + 1, m, .link hname hlink htarget hxs, hys, by omega⟩
      | step hname hlink hrest =>
          obtain ⟨mid, k, m, hxs, hys, rfl⟩ := ih hrest
          exact ⟨mid, k, m, .step hname hlink hxs, hys, rfl⟩

theorem Leads.deterministic {at_ xs p q : List String} {n m : Nat} (h : Leads root at_ xs n p)
    (h' : Leads root at_ xs m q) : n = m ∧ p = q := by
  induction h generalizing m q with
  | done at_ =>
      cases h'
      exact ⟨rfl, rfl⟩
  | up _ ih =>
      cases h' with
      | up hrest => exact ih hrest
      | link hname => exact absurd rfl hname
      | step hname => exact absurd rfl hname
  | link hname hlink _ _ ihtarget ihrest =>
      cases h' with
      | up => exact absurd rfl hname
      | link _ hlink' htarget hrest =>
          cases hlink.symm.trans hlink'
          obtain ⟨rfl, rfl⟩ := ihtarget htarget
          obtain ⟨rfl, rfl⟩ := ihrest hrest
          exact ⟨rfl, rfl⟩
      | step _ hlink' => exact absurd hlink (hlink' _)
  | step hname hlink _ ih =>
      cases h' with
      | up => exact absurd rfl hname
      | link _ hlink' => exact absurd hlink' (hlink _)
      | step _ _ hrest => exact ih hrest

theorem Leads.congr {root' : Entry} {at_ todo p : List String} {n : Nat}
    (hlinks : ∀ position target,
      root'.at? position = some (.link target) ↔ root.at? position = some (.link target))
    (h : Leads root at_ todo n p) : Leads root' at_ todo n p := by
  induction h with
  | done at_ => exact .done at_
  | up _ ih => exact .up ih
  | link hname hlink _ _ ihtarget ihrest =>
      exact .link hname ((hlinks _ _).2 hlink) ihtarget ihrest
  | step hname hlink _ ih =>
      exact .step hname (fun target htarget => hlink target ((hlinks _ _).1 htarget)) ih

/-- No component of the position is a link or a pair of dots. -/
def Straight (root : Entry) (position : List String) : Prop :=
  ∀ above name, above ++ [name] <+: position →
    name ≠ ".." ∧ ∀ target, root.at? (above ++ [name]) ≠ some (.link target)

theorem straight_nil (root : Entry) : Straight root [] := by
  rintro above name ⟨below, hbelow⟩
  simp at hbelow

theorem Straight.leads {at_ todo : List String} (h : Straight root (at_ ++ todo)) :
    Leads root at_ todo 0 (at_ ++ todo) := by
  induction todo generalizing at_ with
  | nil =>
      rw [List.append_nil]
      exact .done at_
  | cons name rest ih =>
      rw [List.append_cons] at h ⊢
      obtain ⟨hname, hlink⟩ := h at_ name (List.prefix_append _ _)
      exact .step hname hlink (ih h)

/-- Where components lead to from a straight position is straight again. -/
theorem Leads.straight {at_ todo p : List String} {n : Nat} (h : Leads root at_ todo n p)
    (hat : Straight root at_) : Straight root p := by
  induction h with
  | done => exact hat
  | up _ ih =>
      exact ih fun above name hbegins =>
        hat above name <| hbegins.trans <| List.dropLast_prefix _
  | @link at_ _ _ _ _ target _ _ _ _ _ _ ihtarget ihrest =>
      refine ihrest (ihtarget ?_)
      rw [targetStart]
      split
      · exact straight_nil root
      · exact hat
  | step hname hlink _ ih =>
      refine ih fun above name hbegins => ?_
      rcases List.prefix_concat_iff.1 hbegins with heq | hbegins
      · obtain ⟨rfl, hlast⟩ := List.append_inj' heq rfl
        cases hlast
        exact ⟨hname, hlink⟩
      · exact hat above name hbegins

/-- Nothing stands on the way to an entry but directories. -/
theorem straight_of_at? {position : List String} {e : Entry} (hroot : root.WellFormed)
    (he : root.at? position = some e) (hlink : e.isLink = false) : Straight root position := by
  rintro above name ⟨below, rfl⟩
  refine ⟨(hroot.isEntryName he name (by simp)).notDots, fun target htarget => ?_⟩
  by_cases hbelow : below = []
  · rw [hbelow, List.append_nil, htarget] at he
    cases he
    cases hlink
  · obtain ⟨cs, hcs⟩ := Entry.at?_eq_directory_of_append hbelow he
    rw [htarget] at hcs
    cases hcs

/-- A path that can be opened leads to what is opened, and a longer path is followed through it: so
many links come off the budget. -/
theorem walkFrom_through {follow : Bool} {budget : Nat} {at_ todo p : List String} {e : Entry}
    (hfollow : follow = true) (h : walkFrom root follow budget at_ todo = .entry p e) :
    ∃ n, n ≤ budget ∧ Leads root at_ todo n p ∧ ∀ (follow' : Bool) (budget' : Nat)
      (more : List String), (follow' = true ∨ more ≠ []) →
      walkFrom root follow' budget' at_ (todo ++ more) =
        if n ≤ budget' then walkFrom root follow' (budget' - n) p more else .loop := by
  fun_induction walkFrom root follow budget at_ todo with
  | case1 budget at_ e' he =>
      cases h
      exact ⟨0, Nat.zero_le _, .done _, fun _ _ _ _ => by simp⟩
  | case3 budget at_ rest cs hcs ih =>
      obtain ⟨n, hn, hleads, hmore⟩ := ih h
      refine ⟨n, hn, .up hleads, fun follow' budget' more hask => ?_⟩
      rw [List.cons_append, walkFrom]
      simp only [hcs, if_true, hmore _ _ _ hask]
  | case7 at_ name rest cs hcs hname target hget hlast budget t ih =>
      obtain ⟨n, hn, hleads, hmore⟩ := ih h
      obtain ⟨mid, k, m, htarget, hrest, hkm⟩ := hleads.split
      have hlink := hget
      rw [← Entry.at?_concat_directory hcs] at hlink
      refine ⟨n + 1, by omega, hkm ▸ .link hname hlink htarget hrest,
        fun follow' budget' more hask => ?_⟩
      -- with more behind it, the link is followed whatever is asked about the end
      have hgoing : ((rest ++ more).isEmpty && !follow') = false := by
        rcases hask with rfl | hne
        · simp
        · simp [hne]
      rw [List.cons_append, walkFrom]
      simp only [hcs, hname, if_false, hget, hgoing, Bool.false_eq_true]
      cases budget' with
      | zero => simp
      | succ budget' =>
          rw [← List.append_assoc]
          refine (hmore follow' budget' more hask).trans ?_
          simp only [Nat.add_le_add_iff_right, Nat.add_sub_add_right]
  | case8 budget at_ name rest cs hcs hname e' hlink hget ih =>
      obtain ⟨n, hn, hleads, hmore⟩ := ih h
      have hfound := hget
      rw [← Entry.at?_concat_directory hcs] at hfound
      refine ⟨n, hn, .step hname (fun target htarget => ?_) hleads,
        fun follow' budget' more hask => ?_⟩
      · exact hlink target (Option.some.inj (hfound.symm.trans htarget))
      · rw [← hmore _ _ _ hask, List.cons_append, walkFrom]
        cases e' with
        | link target => exact absurd rfl (hlink target)
        | file bytes => simp only [hcs, hname, if_false, hget]
        | directory ds => simp only [hcs, hname, if_false, hget]
  | case5 => simp_all
  | case2 | case4 | case6 | case9 | case10 => cases h

theorem leads_of_walkFrom {budget : Nat} {at_ todo p : List String} {e : Entry}
    (h : walkFrom root true budget at_ todo = .entry p e) :
    root.at? p = some e ∧ ∃ n, Leads root at_ todo n p := by
  obtain ⟨n, hn, hleads, hmore⟩ := walkFrom_through rfl h
  have hend := hmore true budget [] (.inl rfl)
  rw [List.append_nil, if_pos hn, h, walkFrom] at hend
  refine ⟨?_, n, hleads⟩
  split at hend
  · rename_i he
    cases hend
    exact he
  · cases hend

/-- Following a link takes at least so many links. -/
def Spans (root : Entry) (n : Nat) (position : List String) : Prop :=
  ∃ at_ name target m mid, position = at_ ++ [name] ∧ root.at? position = some (.link target) ∧
    Leads root (targetStart at_ target) (Path.ofString target).parts m mid ∧ n ≤ m

theorem Spans.mono {n m : Nat} {position : List String} (h : Spans root m position)
    (hn : n ≤ m) : Spans root n position := by
  obtain ⟨at_, name, target, k, mid, hposition, hlink, htarget, hm⟩ := h
  exact ⟨at_, name, target, k, mid, hposition, hlink, htarget, Nat.le_trans hn hm⟩

theorem mem_links {position : List String} {target : String} (hposition : position ≠ [])
    (h : root.at? position = some (.link target)) :
    position ∈ root.links.map Prod.fst := by
  have hmem := Entry.mem_descendants_of_at? hposition h []
  exact List.mem_map_of_mem (List.mem_filter.2 ⟨hmem, rfl⟩)

theorem realFrom_of_not_link {at_ : List String} {name : String} (hname : name ≠ "..")
    (hlink : ∀ target, root.at? (at_ ++ [name]) ≠ some (.link target)) (fuel : Nat)
    (active : List (List String)) (rest : List String) :
    realFrom root fuel active at_ (name :: rest) =
      realFrom root fuel active (at_ ++ [name]) rest := by
  rw [realFrom.eq_def]
  simp only [hname, if_false]

/-- Where components lead to is what they resolve to. The links that are being followed are longer
than what is left of the way, so none of them comes up again, and the fuel lasts. -/
theorem Leads.realFrom {at_ todo p : List String} {n : Nat} (h : Leads root at_ todo n p)
    {fuel : Nat} {active : List (List String)} (hnodup : active.Nodup)
    (hactive : ∀ position ∈ active, Spans root n position)
    (hfuel : root.links.length < fuel + active.length) :
    realFrom root fuel active at_ todo = .ok p := by
  induction h generalizing fuel active with
  | done at_ => rw [FileSystem.realFrom]
  | up _ ih =>
      rw [FileSystem.realFrom, if_pos rfl]
      exact ih hnodup hactive hfuel
  | step hname hlink hrest ih =>
      rw [realFrom_of_not_link hname hlink]
      exact ih hnodup hactive hfuel
  | @link at_ rest mid p name target n m hname hlink htarget hrest ihtarget ihrest =>
      have hnew : at_ ++ [name] ∉ active := by
        intro hmem
        obtain ⟨at', name', target', k, mid', heq, hlink', htarget', hk⟩ := hactive _ hmem
        obtain ⟨rfl, hname'⟩ := List.append_inj' heq rfl
        cases hlink.symm.trans hlink'
        obtain ⟨rfl, -⟩ := htarget.deterministic htarget'
        omega
      have hlinks : ∀ position ∈ (at_ ++ [name]) :: active,
          position ∈ root.links.map Prod.fst := by
        intro position hposition
        rcases List.mem_cons.1 hposition with rfl | hposition
        · exact mem_links (by simp) hlink
        · obtain ⟨at', name', target', -, -, rfl, hlink', -⟩ := hactive _ hposition
          exact mem_links (by simp) hlink'
      have hnodup' : ((at_ ++ [name]) :: active).Nodup := List.nodup_cons.2 ⟨hnew, hnodup⟩
      have hlength := hnodup'.length_le_of_subset hlinks
      rw [List.length_cons, List.length_map] at hlength
      obtain ⟨fuel, rfl⟩ := Nat.exists_eq_add_one_of_ne_zero (show fuel ≠ 0 by omega)
      have hfollowed := @ihtarget fuel _ hnodup' (fun position hposition => by
        rcases List.mem_cons.1 hposition with rfl | hposition
        · exact ⟨at_, name, target, n, mid, rfl, hlink, htarget, Nat.le_refl n⟩
        · exact (hactive _ hposition).mono (by omega)) (by
        rw [List.length_cons]
        omega)
      have hleft := ihrest hnodup (fun position hposition => (hactive _ hposition).mono (by omega))
        hfuel
      rw [targetStart] at hfollowed
      rw [FileSystem.realFrom, if_neg hname]
      simp only [hlink, List.contains_eq_mem, hnew, decide_false, Bool.false_eq_true, if_false,
        hfollowed, hleft]

theorem realPath_of_leads {fs : FileSystem} {p : Path} (hnul : p.hasNul = false) {n : Nat}
    {position : List String} (h : Leads fs.root (fs.start p) p.parts n position) :
    fs.realPath p = .ok (Path.absolute position) := by
  have hreal := h.realFrom List.nodup_nil (fun _ hmem => absurd hmem List.not_mem_nil)
    (show fs.root.links.length < fs.root.links.length + 1 + 0 by omega)
  simp only [realPath, hnul, Bool.false_eq_true, if_false, hreal]

theorem leads_of_directoryPosition? {fs : FileSystem} {p : Path} {position : List String}
    (h : fs.directoryPosition? p = some position) :
    p.hasNul = false ∧ (∃ cs, fs.root.at? position = some (.directory cs)) ∧
      ∃ n, Leads fs.root (fs.start p) p.parts n position := by
  unfold directoryPosition? walk at h
  cases hnul : p.hasNul with
  | true =>
      rw [if_pos hnul] at h
      cases h
  | false =>
      rw [if_neg (by simp [hnul])] at h
      split at h
      · rename_i found e hwalk
        obtain ⟨he, hleads⟩ := leads_of_walkFrom hwalk
        cases e with
        | directory cs =>
            cases h
            exact ⟨rfl, ⟨cs, he⟩, hleads⟩
        | file bytes => cases h
        | link target => cases h
      · cases h

theorem walk_of_entry? {fs : FileSystem} {path : Path} {e : Entry} (h : fs.entry? path = some e) :
    ∃ position, fs.walk true path = .entry position e := by
  unfold entry? at h
  cases hwalk : fs.walk true path with
  | entry position found =>
      rw [hwalk] at h
      cases h
      exact ⟨position, rfl⟩
  | missing => rw [hwalk] at h; cases h
  | notDirectory => rw [hwalk] at h; cases h
  | loop => rw [hwalk] at h; cases h

theorem at?_of_walk {fs : FileSystem} {path : Path} {position : List String} {e : Entry}
    (h : fs.walk true path = .entry position e) : fs.root.at? position = some e := by
  unfold walk at h
  split at h
  · cases h
  · exact (leads_of_walkFrom h).1

/-- Where no link stands under the names, they lead straight on. -/
theorem walkFrom_append {position parts : List String} {e : Entry}
    (hnames : ∀ name ∈ parts, IsEntryName name) (he : root.at? (position ++ parts) = some e)
    (hlink : e.isLink = false) (budget : Nat) (more : List String) :
    walkFrom root true budget position (parts ++ more) =
      walkFrom root true budget (position ++ parts) more := by
  induction parts generalizing position with
  | nil => rw [List.append_nil, List.nil_append]
  | cons name rest ih =>
      obtain ⟨cs, hcs⟩ := Entry.at?_eq_directory_of_append (List.cons_ne_nil name rest) he
      rw [List.append_cons] at he ⊢
      rw [← ih (fun x hx => hnames x (by simp [hx])) he, List.cons_append]
      have hname : name ≠ ".." := (hnames name (by simp)).notDots
      rw [Entry.at?_append] at he
      obtain ⟨found, hfound, he⟩ := Option.bind_eq_some_iff.1 he
      rw [Entry.at?_concat_directory hcs] at hfound
      cases found with
      | file bytes => simp only [walkFrom, hcs, hname, if_false, hfound]
      | directory ds => simp only [walkFrom, hcs, hname, if_false, hfound]
      | link target =>
          cases rest with
          | nil =>
              cases he
              cases hlink
          | cons next more => cases he

theorem hasNul_of_names {path : Path} (hnames : ∀ name ∈ path.parts, IsEntryName name) :
    path.hasNul = false := by
  rw [Path.hasNul, List.any_eq_false]
  intro name hname
  simpa using (hnames name hname).noNul

theorem walk_absolute {fs : FileSystem} {position : List String} {e : Entry}
    (hnames : ∀ name ∈ position, IsEntryName name) (he : fs.root.at? position = some e)
    (hlink : e.isLink = false) : fs.walk true (Path.absolute position) = .entry position e := by
  have hwalk := @walkFrom_append fs.root [] position e hnames he hlink linkLimit []
  rw [List.append_nil, List.nil_append, walkFrom, he] at hwalk
  rw [walk, @hasNul_of_names (Path.absolute _) hnames]
  exact hwalk

theorem directoryPosition?_absolute {fs : FileSystem} {position : List String}
    {cs : List (String × Entry)} (hnames : ∀ name ∈ position, IsEntryName name)
    (hcs : fs.root.at? position = some (.directory cs)) :
    fs.directoryPosition? (Path.absolute position) = some position := by
  rw [directoryPosition?, walk_absolute hnames hcs rfl]
  rfl

theorem walk_absolute_missing {fs : FileSystem} {position more : List String}
    {cs : List (String × Entry)} {name : String}
    (hnames : ∀ n ∈ position ++ name :: more, IsEntryName n)
    (hcs : fs.root.at? position = some (.directory cs)) (hname : Assoc.get? name cs = none) :
    fs.walk true (Path.absolute (position ++ name :: more)) = .missing := by
  have hwalk := @walkFrom_append fs.root [] position _ (fun n hn => hnames n (by simp [hn])) hcs rfl
    linkLimit (name :: more)
  have hdots : name ≠ ".." := (hnames name (by simp)).notDots
  rw [List.nil_append, walkFrom, hcs] at hwalk
  simp only [hdots, if_false, hname] at hwalk
  rw [walk, @hasNul_of_names (Path.absolute _) hnames]
  exact hwalk

theorem bytes?_absolute_missing {fs : FileSystem} {position : List String}
    {cs : List (String × Entry)} {name : String}
    (hnames : ∀ n ∈ position ++ [name], IsEntryName n)
    (hcs : fs.root.at? position = some (.directory cs)) (hname : Assoc.get? name cs = none) :
    fs.bytes? (Path.absolute (position ++ [name])) = none := by
  rw [bytes?, entry?, walk_absolute_missing hnames hcs hname]

theorem hasNul_below {directory : Path} {parts : List String} (hnul : directory.hasNul = false)
    (hnames : ∀ name ∈ parts, IsEntryName name) :
    (⟨directory.root, directory.parts ++ parts⟩ : Path).hasNul = false := by
  have hbelow : (⟨"", parts⟩ : Path).hasNul = false := hasNul_of_names hnames
  rw [Path.hasNul] at hnul hbelow ⊢
  rw [List.any_append, hnul, hbelow, Bool.or_self]

theorem walk_below {fs : FileSystem} {directory : Path} {position parts : List String}
    (hposition : fs.directoryPosition? directory = some position)
    (hnames : ∀ name ∈ parts, IsEntryName name) :
    ∃ n, Leads fs.root (fs.start directory) directory.parts n position ∧
      fs.walk true ⟨directory.root, directory.parts ++ parts⟩ =
        walkFrom fs.root true (linkLimit - n) position parts := by
  obtain ⟨hnul, -⟩ := leads_of_directoryPosition? hposition
  have hnul' := hasNul_below hnul hnames
  have hwalk : ∃ e, walkFrom fs.root true linkLimit (fs.start directory) directory.parts =
      .entry position e := by
    unfold directoryPosition? walk at hposition
    rw [if_neg (by simp [hnul])] at hposition
    split at hposition
    · rename_i found e hwalk
      split at hposition
      · cases hposition
        exact ⟨e, hwalk⟩
      · cases hposition
    · cases hposition
  obtain ⟨e, hwalk⟩ := hwalk
  obtain ⟨n, hn, hleads, hmore⟩ := walkFrom_through rfl hwalk
  refine ⟨n, hleads, ?_⟩
  rw [walk, if_neg (by simp [hnul'])]
  exact (hmore true linkLimit parts (.inl rfl)).trans (if_pos hn)

theorem pathExists_of_isDirectory {fs : FileSystem} {p : Path} (h : fs.isDirectory p = true) :
    fs.pathExists p = true := by
  rw [isDirectory] at h
  rw [pathExists]
  cases he : fs.entry? p with
  | none => simp [he] at h
  | some e => rfl

/-- Every link leads to an entry. -/
def Unbroken (fs : FileSystem) : Prop :=
  ∀ position target, fs.root.at? position = some (.link target) →
    fs.pathExists (Path.absolute position) = true

section Unbroken

variable {fs : FileSystem} (h : fs.Unbroken) (hwell : fs.root.WellFormed) {at_ : List String}
  {name target : String}

include h hwell in
theorem Unbroken.walkFrom (hlink : fs.root.at? (at_ ++ [name]) = some (.link target)) :
    ∃ q e, walkFrom fs.root true linkLimit at_ [name] = .entry q e := by
  obtain ⟨e, he⟩ := Option.isSome_iff_exists.1 (h _ _ hlink)
  obtain ⟨q, hwalk⟩ := walk_of_entry? he
  have hnames := hwell.isEntryName hlink
  obtain ⟨cs, hcs⟩ := Entry.at?_eq_directory_of_append (List.cons_ne_nil name []) hlink
  have hway := @walkFrom_append fs.root [] at_ _ (fun n hn => hnames n (by simp [hn])) hcs rfl
    linkLimit [name]
  rw [walk, @hasNul_of_names (Path.absolute _) hnames] at hwalk
  exact ⟨q, e, hway.symm.trans hwalk⟩

include h hwell in
/-- Without a broken link all components lead somewhere, whether they can be opened or not. -/
theorem Unbroken.leads (at_ todo : List String) : ∃ n p, Leads fs.root at_ todo n p := by
  induction todo generalizing at_ with
  | nil => exact ⟨0, at_, .done at_⟩
  | cons name rest ih =>
      by_cases hname : name = ".."
      · obtain ⟨n, p, hrest⟩ := ih at_.dropLast
        exact ⟨n, p, hname ▸ .up hrest⟩
      · by_cases hlink : ∃ target, fs.root.at? (at_ ++ [name]) = some (.link target)
        · obtain ⟨target, htarget⟩ := hlink
          obtain ⟨q, e, hwalk⟩ := h.walkFrom hwell htarget
          obtain ⟨-, n, hleads⟩ := leads_of_walkFrom hwalk
          obtain ⟨m, p, hrest⟩ := ih q
          exact ⟨n + m, p, hleads.append hrest⟩
        · obtain ⟨n, p, hrest⟩ := ih (at_ ++ [name])
          exact ⟨n, p, .step hname (fun target htarget => hlink ⟨target, htarget⟩) hrest⟩

end Unbroken

section OwnTarget

variable {root : Entry} {at_ : List String} {cs : List (String × Entry)} {name : String}
  (hcs : root.at? at_ = some (.directory cs)) (hget : Assoc.get? name cs = some (.link name))
  (htarget : Path.ofString name = ⟨"", [name]⟩) (hname : name ≠ "..")

include hcs hget htarget hname

/-- A link to itself is never followed to an end. -/
theorem walkFrom_ownTarget (budget : Nat) (rest : List String) :
    walkFrom root true budget at_ (name :: rest) = .loop := by
  induction budget generalizing rest with
  | zero => simp [walkFrom, hcs, hname, hget]
  | succ budget ih =>
      simp only [walkFrom, hcs, hname, if_false, hget, htarget, Path.isAbsolute]
      simpa using ih rest

/-- Resolving leaves a link to itself where it stands, with all that is behind it. -/
theorem realFrom_ownTarget (fuel : Nat) (rest : List String) :
    realFrom root (fuel + 1) [] at_ (name :: rest) = .error (at_ ++ name :: rest) := by
  have hlink : root.at? (at_ ++ [name]) = some (.link name) := by
    rw [Entry.at?_concat_directory hcs, hget]
  simp [realFrom, hname, hlink, htarget, Path.isAbsolute]

end OwnTarget

section Stopped

variable {fs : FileSystem} {p : Path} {parts : List String} (hnul : p.hasNul = false)
  (h : realFrom fs.root (fs.root.links.length + 1) [] (fs.start p) p.parts = .error parts)

include hnul h

theorem realPath_of_loop (hwalk : fs.walk true (Path.absolute (collapse parts)) = .loop) :
    fs.realPath p = .error .linkLoop := by
  rw [realPath, if_neg (by simp [hnul]), h]
  simp only [hwalk]

/-- What a link that never ends leaves on a path is taken as a text. -/
theorem realPath_of_missing (hwalk : fs.walk true (Path.absolute (collapse parts)) = .missing) :
    fs.realPath p = .ok (Path.absolute (collapse parts)) := by
  rw [realPath, if_neg (by simp [hnul]), h]
  simp only [hwalk]

end Stopped

end Exposure.FileSystem
