import Exposure.Proofs.FileSystem.Change

/-!
File systems that have been added to. New directories, and files under names that were free, change
nothing of what stands there already; so in an extended file system paths have the real paths that
they had, and what is read directly below a directory is what was read there before.
-/
namespace Exposure

namespace Entry

variable {root new : Entry} {position : List String} {name : String} {cs : List (String × Entry)}

/-- An entry that lists nothing, in place of nothing or of another such entry, shows at its own
position only. -/
theorem bare_at?_editAt_put (hcs : root.at? position = some (.directory cs))
    (hname : ∀ e, Assoc.get? name cs = some e → e.children = []) (hnew : new.children = [])
    (q : List String) :
    ((editAt (Assoc.put name new) position root).at? q).map bare =
      if q = position ++ [name] then some new.bare else (root.at? q).map bare := by
  induction position generalizing root q with
  | nil =>
      cases hcs
      rw [editAt, List.nil_append]
      cases q with
      | nil => rfl
      | cons first rest =>
          simp only [at?, children, Assoc.get?_put, List.cons.injEq]
          by_cases hfirst : name = first
          · subst hfirst
            rw [if_pos rfl, Option.bind_some]
            cases rest with
            | nil => simp [at?]
            | cons next more =>
                cases hold : Assoc.get? name cs with
                | none => simp [at?, hnew]
                | some e => simp [at?, hnew, hname e hold]
          · simp [hfirst, Ne.symm hfirst]
  | cons above position ih =>
      obtain ⟨child, hchild, hposition⟩ := Option.bind_eq_some_iff.1 hcs
      cases root with
      | file bytes => cases hchild
      | link target => cases hchild
      | directory ds =>
          have hchild : Assoc.get? above ds = some child := hchild
          simp only [editAt, hchild]
          cases q with
          | nil => rfl
          | cons first rest =>
              simp only [at?, children, Assoc.get?_put, List.cons_append, List.cons.injEq]
              by_cases hfirst : above = first
              · subst hfirst
                simp only [if_true, hchild, Option.bind_some, true_and, ih hposition]
              · simp [hfirst, Ne.symm hfirst]

theorem wellFormed_editAt {edit : List (String × Entry) → List (String × Entry)}
    (hroot : root.WellFormed) (hcs : root.at? position = some (.directory cs))
    (hedit : (directory (edit cs)).WellFormed) : (editAt edit position root).WellFormed := by
  induction position generalizing root with
  | nil =>
      cases hcs
      exact hedit
  | cons above position ih =>
      obtain ⟨child, hchild, hposition⟩ := Option.bind_eq_some_iff.1 hcs
      cases root with
      | file bytes => cases hchild
      | link target => cases hchild
      | directory ds =>
          have hchild : Assoc.get? above ds = some child := hchild
          obtain ⟨hnodup, hnames, hds⟩ := hroot.children
          have hmem : (above, child) ∈ ds := Assoc.mem_of_get? hchild
          have hkeys : Assoc.keys (Assoc.put above (editAt edit position child) ds) =
              Assoc.keys ds := by
            rw [Assoc.keys_put, if_pos (Assoc.mem_keys_iff_get?.2 ⟨child, hchild⟩)]
          simp only [editAt, hchild]
          refine wellFormed_directory (hkeys ▸ hnodup) (hkeys ▸ hnames) fun c hc => ?_
          have hget := Assoc.get?_of_mem (Assoc.nodup_keys_put hnodup) hc
          rw [Assoc.get?_put] at hget
          split at hget
          · exact Option.some.inj hget ▸ ih (hds _ hmem) hposition
          · exact hds _ (Assoc.mem_of_get? hget)

theorem wellFormed_put (hroot : (directory cs).WellFormed) (hname : IsEntryName name)
    (hnew : new.WellFormed) : (directory (Assoc.put name new cs)).WellFormed := by
  obtain ⟨hnodup, hnames, hcs⟩ := hroot.children
  refine wellFormed_directory (Assoc.nodup_keys_put hnodup) (fun n hn => ?_) fun c hc => ?_
  · obtain ⟨e, he⟩ := Assoc.mem_keys_iff_get?.1 hn
    rw [Assoc.get?_put] at he
    split at he
    · rename_i heq
      exact heq ▸ hname
    · exact hnames n (Assoc.mem_keys_iff_get?.2 ⟨e, he⟩)
  · have hget := Assoc.get?_of_mem (Assoc.nodup_keys_put hnodup) hc
    rw [Assoc.get?_put] at hget
    split at hget
    · exact Option.some.inj hget ▸ hnew
    · exact hcs _ (Assoc.mem_of_get? hget)

end Entry

namespace FileSystem

/-- The second file system keeps what the first one has, and what it has besides are directories and
files at certain positions. -/
structure Extends (added : List (List String)) (fs fs' : FileSystem) : Prop
    extends Keeps fs fs' where
  links : ∀ position target, fs'.root.at? position = some (.link target) →
    fs.root.at? position = some (.link target)
  files : ∀ position bytes, fs'.root.at? position = some (.file bytes) →
    fs.root.at? position = some (.file bytes) ∨ position ∈ added

variable {added added' : List (List String)} {fs fs' fs'' : FileSystem}

theorem Extends.refl (fs : FileSystem) : Extends [] fs fs :=
  ⟨⟨rfl, fun _ e he _ => ⟨e, he, rfl⟩⟩, fun _ _ h => h, fun _ _ h => .inl h⟩

theorem Extends.trans (h : Extends added fs fs') (h' : Extends added' fs' fs'') :
    Extends (added ++ added') fs fs'' := by
  refine ⟨h.toKeeps.trans h'.toKeeps, fun position target hlink =>
    h.links _ _ (h'.links _ _ hlink), fun position bytes hfile => ?_⟩
  rw [List.mem_append]
  rcases h'.files _ _ hfile with hfile | hadded
  · rcases h.files _ _ hfile with hfile | hadded
    · exact .inl hfile
    · exact .inr (.inl hadded)
  · exact .inr (.inr hadded)

/-- An entry that lists nothing is put under a name that is free. -/
theorem extends_edit_put {position : List String} {name : String} {cs : List (String × Entry)}
    {new : Entry} (hcs : fs.root.at? position = some (.directory cs))
    (hname : Assoc.get? name cs = none) (hnew : new.children = []) (hlink : new.isLink = false)
    (hfile : new.isFile = true → position ++ [name] ∈ added) :
    Extends added fs (fs.edit position (Assoc.put name new)) := by
  have hbare := Entry.bare_at?_editAt_put hcs (fun e he => nomatch hname.symm.trans he) hnew
  have hold {q : List String} {e : Entry}
      (he : (fs.edit position (Assoc.put name new)).root.at? q = some e) :
      q = position ++ [name] ∧ new.bare = e.bare ∨
        ∃ old, fs.root.at? q = some old ∧ old.bare = e.bare := by
    have hq := hbare q
    have he : (Entry.editAt (Assoc.put name new) position fs.root).at? q = some e := he
    rw [he, Option.map_some] at hq
    split at hq
    · rename_i heq
      exact .inl ⟨heq, (Option.some.inj hq).symm⟩
    · exact .inr (Option.map_eq_some_iff.1 hq.symm)
  refine ⟨⟨rfl, fun q e he _ => ?_⟩, fun q target hq => ?_, fun q bytes hq => ?_⟩
  · have hne : q ≠ position ++ [name] := by
      rintro rfl
      rw [Entry.at?_concat_directory hcs, hname] at he
      cases he
    have hq := hbare q
    rw [if_neg hne, he] at hq
    exact Option.map_eq_some_iff.1 hq
  · rcases hold hq with ⟨-, hsame⟩ | ⟨old, hq, hsame⟩
    · rw [Entry.bare_eq_link hsame] at hlink
      cases hlink
    · rw [hq, Entry.bare_eq_link hsame]
  · rcases hold hq with ⟨rfl, hsame⟩ | ⟨old, hq, hsame⟩
    · rw [Entry.bare_eq_file hsame] at hfile
      exact .inr (hfile rfl)
    · exact .inl (by rw [hq, Entry.bare_eq_file hsame])

section Directories

variable {path : Path}

/-- Making a directory either changes nothing or puts an empty one under a name that is free. -/
theorem makeDirectory_eq_ok (hnul : path.hasNul = false) (h : fs.makeDirectory path = .ok fs') :
    fs' = fs ∧ fs.isDirectory path = true ∨
      ∃ position cs, fs.walk true path.parent = .entry position (.directory cs) ∧
        Assoc.get? path.name cs = none ∧ path.name ≠ ".." ∧
        (∃ above, path.parts = above ++ [path.name]) ∧
        fs' = fs.edit position (Assoc.put path.name (.directory [])) := by
  have hstart : fs.start path.parent = fs.start path := rfl
  unfold makeDirectory at h
  cases hwalk : fs.walk false path with
  | entry position e =>
      simp only [hwalk] at h
      split at h
      · cases h
        exact .inl ⟨rfl, ‹_›⟩
      · cases h
  | notDirectory => simp only [hwalk] at h; cases h
  | loop => simp only [hwalk] at h; cases h
  | missing =>
      simp only [hwalk] at h
      split at h
      · rename_i position cs hparent
        cases h
        have hcs := at?_of_walk hparent
        have hopened := hparent
        simp only [walk, hnul, hasNul_parent hnul, hstart, Bool.false_eq_true, if_false]
          at hwalk hparent
        rcases List.eq_nil_or_concat path.parts with hnil | ⟨above, name, hparts⟩
        · -- the start itself is either there or missing
          simp only [Path.parent, hnil, List.dropLast_nil, walkFrom] at hwalk hparent
          split at hwalk
          · cases hwalk
          · rename_i hnone
            simp only [hnone] at hparent
            cases hparent
        · rw [List.concat_eq_append] at hparts
          have habove : path.parent.parts = above := by simp [Path.parent, hparts]
          obtain rfl : path.name = name := by simp [Path.name, hparts]
          rw [habove] at hparent
          obtain ⟨n, hn, -, hmore⟩ := walkFrom_through rfl hparent
          have hbelow := hmore false linkLimit [path.name] (.inr (List.cons_ne_nil _ _))
          rw [← hparts, hwalk, if_pos hn, walkFrom] at hbelow
          simp only [hcs] at hbelow
          split at hbelow
          · -- the directory above a directory is never missing
            obtain ⟨e, he⟩ : ∃ e, fs.root.at? position.dropLast = some e := by
              obtain ⟨rest, hrest⟩ := List.dropLast_prefix position
              rw [← hrest, Entry.at?_append] at hcs
              obtain ⟨e, he, -⟩ := Option.bind_eq_some_iff.1 hcs
              exact ⟨e, he⟩
            rw [walkFrom, he] at hbelow
            cases hbelow
          · rename_i hdots
            refine .inr ⟨position, cs, hopened, ?_, hdots, ⟨above, hparts⟩, ?_⟩
            · cases hget : Assoc.get? path.name cs with
              | none => rfl
              | some e =>
                  rw [hget] at hbelow
                  cases e with
                  | link target => cases hbelow
                  | file bytes =>
                      simp only [walkFrom, Entry.at?_concat_directory hcs, hget] at hbelow
                      cases hbelow
                  | directory ds =>
                      simp only [walkFrom, Entry.at?_concat_directory hcs, hget] at hbelow
                      cases hbelow
            · rw [edit, Entry.put_concat]
      · cases h
      · cases h
      · cases h
      · cases h

theorem makeDirectory_extends (hnul : path.hasNul = false)
    (h : fs.makeDirectory path = .ok fs') : Extends [] fs fs' := by
  rcases makeDirectory_eq_ok hnul h with ⟨rfl, -⟩ | ⟨position, cs, hwalk, hfree, -, -, rfl⟩
  · exact .refl _
  · exact extends_edit_put (at?_of_walk hwalk) hfree rfl rfl nofun

theorem makeDirectory_wellFormed (hnames : ∀ n ∈ path.parts, IsEntryName n)
    (hwell : fs.root.WellFormed) (h : fs.makeDirectory path = .ok fs') :
    fs'.root.WellFormed := by
  rcases makeDirectory_eq_ok (hasNul_of_names hnames) h with
    ⟨rfl, -⟩ | ⟨position, cs, hwalk, -, -, ⟨above, hparts⟩, rfl⟩
  · exact hwell
  · have hcs := at?_of_walk hwalk
    have hname : IsEntryName path.name := hnames _ (by rw [hparts]; simp)
    have hempty : (Entry.directory []).WellFormed :=
      Entry.wellFormed_directory List.nodup_nil nofun nofun
    exact Entry.wellFormed_editAt hwell hcs (Entry.wellFormed_put (hwell.at? hcs) hname hempty)

/-- Making directories only adds directories, also where it is refused on the way. -/
theorem makeDirectories_extends (path : Path) : Extends [] fs (fs.makeDirectories path).1 := by
  induction path using makeDirectories_induction fs with
  | refused path e => exact .refl _
  | made path fs' hnul hmade _ => exact makeDirectory_extends hnul hmade
  | refusedAbove path fs' e ih => exact ih
  | refusedBelow path fs' e ih => exact ih
  | madeBelow path fs' fs'' hnul ih hmade _ => exact ih.trans (makeDirectory_extends hnul hmade)

theorem makeDirectories_wellFormed (hnames : ∀ n ∈ path.parts, IsEntryName n)
    (hwell : fs.root.WellFormed) : (fs.makeDirectories path).1.root.WellFormed := by
  have hparents {path : Path} (h : ∀ n ∈ path.parts, IsEntryName n) :
      ∀ n ∈ path.parent.parts, IsEntryName n :=
    fun n hn => h n ((List.dropLast_sublist _).subset hn)
  induction path using makeDirectories_induction fs with
  | refused path e => exact hwell
  | made path fs' _ hmade _ => exact makeDirectory_wellFormed hnames hwell hmade
  | refusedAbove path fs' e ih => exact ih (hparents hnames)
  | refusedBelow path fs' e ih => exact ih (hparents hnames)
  | madeBelow path fs' fs'' _ ih hmade _ =>
      exact makeDirectory_wellFormed hnames (ih (hparents hnames)) hmade

end Directories

section Unbroken

variable (h : Extends added fs fs') (hwell : fs.root.WellFormed) (hunbroken : fs.Unbroken)

include h in
theorem Extends.link_iff (position : List String) (target : String) :
    fs'.root.at? position = some (.link target) ↔ fs.root.at? position = some (.link target) :=
  ⟨h.links position target, h.link⟩

include h hwell hunbroken in
theorem Extends.realPath (path : Path) : fs'.realPath path = fs.realPath path := by
  cases hnul : path.hasNul with
  | true => simp only [FileSystem.realPath, hnul, if_true]
  | false =>
      obtain ⟨n, p, hleads⟩ := hunbroken.leads hwell (fs.start path) path.parts
      have hleads' := hleads.congr h.link_iff
      rw [← h.start] at hleads'
      rw [realPath_of_leads hnul hleads, realPath_of_leads hnul hleads']

include h hwell hunbroken in
/-- Under a name below a directory the same is read as before, unless a file has been added under
this very name: neither a directory nor a link leads to anything new. -/
theorem Extends.bytes?_child {directory : Path} {position : List String} {name : String}
    (hposition : fs.directoryPosition? directory = some position) (hname : IsEntryName name)
    (hadded : position ++ [name] ∉ added) :
    fs'.bytes? (directory.child name) = fs.bytes? (directory.child name) := by
  refine Option.ext fun bytes => ⟨fun hbytes => ?_, h.bytes?⟩
  obtain ⟨p, hwalk'⟩ := bytes?_eq_some.1 hbytes
  have hnames : ∀ n ∈ [name], IsEntryName n := fun n hn => List.mem_singleton.1 hn ▸ hname
  obtain ⟨n, hleads, hchild⟩ := walk_below hposition hnames
  obtain ⟨n', hleads', hchild'⟩ := walk_below (h.directoryPosition? hposition) hnames
  rw [h.start] at hleads'
  obtain ⟨rfl, -⟩ := (hleads.congr h.link_iff).deterministic hleads'
  have hwalk' := hchild'.symm.trans hwalk'
  refine bytes?_eq_some.2 ⟨p, hchild.trans ?_⟩
  obtain ⟨-, ⟨cs, hcs⟩, -⟩ := leads_of_directoryPosition? hposition
  obtain ⟨-, ⟨cs', hcs'⟩, -⟩ := leads_of_directoryPosition? (h.directoryPosition? hposition)
  have hget := Entry.at?_concat_directory hcs name
  have hget' := Entry.at?_concat_directory hcs' name
  have hdots := hname.notDots
  obtain ⟨hfile, -⟩ := leads_of_walkFrom hwalk'
  cases hfound : Assoc.get? name cs' with
  | none => simp [walkFrom, hcs', hdots, hfound] at hwalk'
  | some found =>
      rw [hfound] at hget'
      cases found with
      | directory ds => simp [walkFrom, hcs', hdots, hfound, hget'] at hwalk'
      | file bytes' =>
          simp only [walkFrom, hcs', hdots, if_false, hfound, hget'] at hwalk'
          cases hwalk'
          rcases h.files _ _ hget' with hold | hnew
          · rw [hold] at hget
            simp only [walkFrom, hcs, hdots, if_false, ← hget, hold]
          · exact absurd hnew hadded
      | link target =>
          -- the link led to an entry before, so it leads to this entry still, through as many links
          obtain ⟨q, e, hwalk⟩ := hunbroken.walkFrom hwell (h.links _ _ hget')
          obtain ⟨m, -, hm, hmore⟩ := walkFrom_through rfl hwalk
          obtain ⟨m', hm', hleads, -⟩ := walkFrom_through rfl hwalk'
          obtain ⟨rfl, rfl⟩ := (hm.congr h.link_iff).deterministic hleads
          obtain ⟨he, -⟩ := leads_of_walkFrom hwalk
          obtain ⟨e', he', hbare⟩ := h.entries _ _ he trivial
          cases he'.symm.trans hfile
          have hend := hmore true (linkLimit - n) [] (.inl rfl)
          rw [List.append_nil, if_pos hm', walkFrom, he, Entry.bare_eq_file hbare.symm] at hend
          exact hend

include h in
theorem Extends.straight {position : List String} (hstraight : Straight fs.root position) :
    Straight fs'.root position := by
  intro above name hbegins
  obtain ⟨hname, hlink⟩ := hstraight above name hbegins
  exact ⟨hname, fun target htarget => hlink target (h.links _ _ htarget)⟩

end Unbroken

end FileSystem
end Exposure
