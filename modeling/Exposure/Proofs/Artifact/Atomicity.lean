import Exposure.Proofs.FileSystem.Extension
import Exposure.Proofs.FileSystem.Writing

/-!
Writing an artifact is all or nothing. Whatever stands in the way and wherever the writing is cut
short, the target goes from what stood there to the complete bytes in a single step, and a failure
leaves no more behind than directories that had to be made. What a state has of another one is said
position by position, so that the order in which directories list does not count.
-/
namespace Exposure

namespace Path

theorem parent_eq_upTo (p : Path) : p.parent = p.upTo (p.parts.length - 1) := by
  rw [parent, upTo, List.dropLast_eq_take]

theorem upTo_upTo (p : Path) (n m : Nat) : (p.upTo n).upTo m = p.upTo (min m n) := by
  rw [upTo, upTo, upTo, List.take_take]

theorem upTo_of_length_le {p : Path} {n : Nat} (h : p.parts.length ≤ n) : p.upTo n = p := by
  rw [upTo, List.take_of_length_le h]

theorem child_parent {p : Path} {above : List String} (h : p.parts = above ++ [p.name]) :
    p.parent.child p.name = p := by
  have habove : p.parts.dropLast = above := by rw [h, List.dropLast_concat]
  rw [child, parent, habove, ← h]

theorem child_parent_of_name {p : Path} (h : p.name ≠ "") : p.parent.child p.name = p := by
  rcases List.eq_nil_or_concat p.parts with hnil | ⟨above, name, hparts⟩
  · exact absurd (by rw [name, hnil]; rfl) h
  · rw [List.concat_eq_append] at hparts
    refine @child_parent p above ?_
    rw [hparts, Path.name, hparts, List.getLast?_concat, Option.getD_some]

end Path

namespace FileSystem

/-- What stands at a position, a directory without what it lists. -/
def standing (fs : FileSystem) (q : List String) : Option Entry := (fs.root.at? q).map Entry.bare

/-- One of the directories on a path has this position once it is made. -/
def OnWayTo (fs : FileSystem) (path : Path) (q : List String) : Prop :=
  ∃ n, (fs.makeDirectories (path.upTo n)).1.directoryPosition? (path.upTo n) = some q

/-- At a position a state has what stood there before; or nothing stood there, and it has one of
the directories that had to be made on the way to a path. -/
def LeavesAlone (fs : FileSystem) (path : Path) (s : FileSystem) (q : List String) : Prop :=
  s.standing q = fs.standing q ∨
    fs.standing q = none ∧ s.standing q = some (.directory []) ∧ OnWayTo fs path q

variable {fs fs' s s' : FileSystem} {path : Path} {q : List String}

theorem LeavesAlone.refl (fs : FileSystem) (path : Path) (q : List String) :
    LeavesAlone fs path fs q := .inl rfl

theorem LeavesAlone.congr (h : LeavesAlone fs path s q) (hs : s'.standing q = s.standing q) :
    LeavesAlone fs path s' q := by
  rw [LeavesAlone, hs]
  exact h

theorem OnWayTo.of_upTo {n : Nat} (h : OnWayTo fs (path.upTo n) q) : OnWayTo fs path q := by
  obtain ⟨m, hm⟩ := h
  rw [Path.upTo_upTo] at hm
  exact ⟨min m n, hm⟩

theorem LeavesAlone.of_upTo {n : Nat} (h : LeavesAlone fs (path.upTo n) s q) :
    LeavesAlone fs path s q :=
  h.imp_right fun ⟨hnone, hmade, hway⟩ => ⟨hnone, hmade, hway.of_upTo⟩

theorem standing_edit_put {position : List String} {name : String} {cs : List (String × Entry)}
    {new : Entry} (hcs : fs.root.at? position = some (.directory cs))
    (hname : ∀ e, Assoc.get? name cs = some e → e.children = []) (hnew : new.children = [])
    (q : List String) :
    (fs.edit position (Assoc.put name new)).standing q =
      if q = position ++ [name] then some new.bare else fs.standing q :=
  Entry.bare_at?_editAt_put hcs hname hnew q

section Making

/-- A directory that is made stands where its path leads to afterwards. -/
theorem makeDirectory_position (hnul : path.hasNul = false)
    (h : fs.makeDirectory path = .ok fs') :
    ∃ position, fs'.directoryPosition? path = some position ∧
      ∀ q, fs'.standing q = fs.standing q ∨
        fs.standing q = none ∧ fs'.standing q = some (.directory []) ∧ q = position := by
  rcases makeDirectory_eq_ok hnul h with
    ⟨rfl, hdirectory⟩ | ⟨position, cs, hwalk, hfree, hdots, ⟨above, hparts⟩, rfl⟩
  · rw [isDirectory_eq, Option.isSome_iff_exists] at hdirectory
    obtain ⟨position, hposition⟩ := hdirectory
    exact ⟨position, hposition, fun q => .inl rfl⟩
  · have hcs := at?_of_walk hwalk
    have hpath := Path.child_parent hparts
    have hkept := walk_edit hwalk (Assoc.put path.name (.directory [])) fun name e he _ => by
      rw [Assoc.get?_put, if_neg, he]
      rintro rfl
      cases hfree.symm.trans he
    have hmade := walk_child hkept (hpath.symm ▸ hnul) hdots
      (by rw [Assoc.get?_put, if_pos rfl]) rfl
    rw [hpath] at hmade
    refine ⟨position ++ [path.name], by rw [directoryPosition?, hmade]; rfl, fun q => ?_⟩
    rw [standing_edit_put hcs (fun e he => absurd he (by simp [hfree])) rfl]
    split
    · rename_i hq
      refine .inr ⟨?_, rfl, hq⟩
      rw [standing, hq, Entry.at?_concat_directory hcs, hfree, Option.map_none]
    · exact .inl rfl

theorem makeDirectories_leavesAlone (fs : FileSystem) (path : Path) (q : List String) :
    LeavesAlone fs path (fs.makeDirectories path).1 q := by
  induction path using makeDirectories_induction fs with
  | refused path e => exact .refl fs path q
  | made path fs' hnul hmade heq =>
      obtain ⟨position, hposition, hstanding⟩ := makeDirectory_position hnul hmade
      refine (hstanding q).imp_right fun ⟨hnone, hdirectory, hq⟩ => ⟨hnone, hdirectory, ?_⟩
      refine ⟨path.parts.length, ?_⟩
      rw [Path.upTo_of_length_le (Nat.le_refl _), heq, hq, hposition]
  | refusedAbove path fs' e ih | refusedBelow path fs' e ih =>
      rw [Path.parent_eq_upTo] at ih
      exact ih.of_upTo
  | madeBelow path fs' fs'' hnul ih hmade heq =>
      rw [Path.parent_eq_upTo] at ih
      obtain ⟨position, hposition, hstanding⟩ := makeDirectory_position hnul hmade
      rcases hstanding q with hsame | ⟨hnone, hdirectory, hq⟩
      · exact ih.of_upTo.congr hsame
      · refine .inr ⟨?_, hdirectory, path.parts.length, ?_⟩
        · rcases ih with hsame | ⟨-, hmade, -⟩
          · exact hsame.symm.trans hnone
          · cases hnone.symm.trans hmade
        · rw [Path.upTo_of_length_le (Nat.le_refl _), heq, hq, hposition]

/-- Directories that are made without a refusal are there. -/
theorem walk_of_makeDirectories (h : fs.makeDirectories path = (s, none)) :
    ∃ position cs, s.walk true path = .entry position (.directory cs) := by
  have hmade : (fs.makeDirectories path).2 = none →
      (fs.makeDirectories path).1.isDirectory path = true := by
    induction path using makeDirectories_induction fs with
    | refused path e | refusedAbove path fs' e _ | refusedBelow path fs' e _ => exact nofun
    | made path fs' hnul hmade _ | madeBelow path _ fs' hnul _ hmade _ =>
        intro _
        obtain ⟨position, hposition, -⟩ := makeDirectory_position hnul hmade
        rw [isDirectory_eq, hposition, Option.isSome_some]
  rw [h] at hmade
  exact walk_of_isDirectory (hmade rfl)

theorem leavesAlone_of_mem_makingStates (hs : s ∈ fs.makingStates path) (q : List String) :
    LeavesAlone fs path s q := by
  unfold makingStates at hs
  split at hs
  · rw [List.mem_singleton.1 hs]
    exact .refl fs path q
  · obtain ⟨n, -, rfl⟩ := List.mem_map.1 hs
    exact (makeDirectories_leavesAlone fs (path.upTo n) q).of_upTo

theorem getLast?_makingStates (fs : FileSystem) (path : Path) :
    (fs.makingStates path).getLast? = some (fs.makeDirectories path).1 := by
  unfold makingStates
  split
  · rename_i hnul
    rw [makeDirectories, if_pos hnul, List.getLast?_singleton]
  · rw [List.range_succ, List.map_append, List.map_singleton, List.getLast?_concat,
      Path.upTo_of_length_le (Nat.le_refl _)]

end Making

section Writing

variable {ready : FileSystem} {target : Path} {position : List String}
  {cs : List (String × Entry)} {temporary : String}

theorem putAt_file_eq_ok
    (hwalk : ready.walk true target.parent = .entry position (.directory cs)) {bytes : ByteArray}
    {done : FileSystem} (h : ready.putAt target (.file bytes) = .ok done) :
    (∀ ds, Assoc.get? target.name cs ≠ some (.directory ds)) ∧
      done = ready.edit position (Assoc.put target.name (.file bytes)) := by
  simp only [putAt, hwalk] at h
  split at h
  · cases h
  · rename_i hfile
    cases h
    exact ⟨hfile, by rw [edit, Entry.put_concat]⟩

/-- A writing that starts in a directory: what its states hold there besides, and which one is the
last. The target is in place just at the end of a writing that succeeds. -/
structure WrittenBeside (ready : FileSystem) (position : List String)
    (cs : List (String × Entry)) (temporary : String) (target : Path) (bytes : ByteArray)
    (w : Writing) : Prop where
  throughout : ∀ s ∈ w.states, s = ready ∨
    (∃ b, s = ready.edit position (Assoc.put temporary (.file b))) ∨
    w.error = none ∧ s = ready.edit position (Assoc.put target.name (.file bytes))
  returned : w.error = none → target.name ≠ "" ∧ target.name ≠ ".." ∧
    (∀ ds, Assoc.get? target.name cs ≠ some (.directory ds)) ∧
    w.states.getLast? = some (ready.edit position (Assoc.put target.name (.file bytes)))
  raised : ∀ e, w.error = some e → w.states.getLast?.getD ready = ready

theorem writeBeside_spec
    (hwalk : ready.walk true target.parent = .entry position (.directory cs))
    (hfree : Assoc.get? temporary cs = none) (bytes : ByteArray)
    (interruption : Option Interruption) :
    WrittenBeside ready position cs temporary target bytes
      (writeBeside ready (target.parent.child temporary) target bytes interruption) := by
  have undone (b : ByteArray) (e : WriteError) :
      WrittenBeside ready position cs temporary target bytes
        ⟨[ready.edit position (Assoc.put temporary (.file .empty)),
          ready.edit position (Assoc.put temporary (.file b)), ready], some e⟩ := by
    refine ⟨fun s hs => ?_, nofun, fun _ _ => rfl⟩
    simp only [List.mem_cons, List.not_mem_nil, or_false] at hs
    rcases hs with rfl | rfl | rfl
    · exact .inr (.inl ⟨_, rfl⟩)
    · exact .inr (.inl ⟨_, rfl⟩)
    · exact .inl rfl
  rw [writeBeside_eq target hwalk hfree]
  dsimp only
  split
  · exact ⟨nofun, nofun, fun _ _ => rfl⟩
  · split
    · exact undone _ _
    · split
      · exact undone _ _
      · exact undone _ _
      · exact undone _ _
      · rename_i done _ _ hmoved
        split at hmoved
        · cases hmoved
        · rename_i hname
          obtain ⟨hfile, rfl⟩ := putAt_file_eq_ok hwalk hmoved
          obtain ⟨hempty, hdots⟩ := not_or.1 hname
          refine ⟨fun s hs => ?_, fun _ => ⟨hempty, hdots, hfile, rfl⟩, nofun⟩
          simp only [List.mem_cons, List.not_mem_nil, or_false] at hs
          rcases hs with rfl | rfl | rfl
          · exact .inr (.inl ⟨_, rfl⟩)
          · exact .inr (.inl ⟨_, rfl⟩)
          · exact .inr (.inr ⟨rfl, rfl⟩)

end Writing

theorem Writing.final_mem {w : Writing} (h : w.states ≠ []) : w.final ∈ w.states := by
  rw [Writing.final, List.getLast?_eq_some_getLast h, Option.getD_some]
  exact List.getLast_mem h

/-- The position at which a path names an entry, once the directories above it are made. -/
def placeOf? (fs : FileSystem) (target : Path) : Option (List String) :=
  ((fs.makeDirectories target.parent).1.directoryPosition? target.parent).map (· ++ [target.name])

/-- Writing is all or nothing. At every moment the target is left alone or has all bytes. At the
end of a writing that succeeds it has all bytes, and all else is left alone; a path whose own name
is no link opens it. At the end of one that fails all is left alone. -/
structure AllOrNothing (fs : FileSystem) (target : Path) (bytes : ByteArray) (w : Writing) :
    Prop where
  throughout : ∀ s ∈ w.states, ∀ place, fs.placeOf? target = some place →
    LeavesAlone fs target.parent s place ∨ s.standing place = some (.file bytes)
  returned : w.error = none → ∃ place, fs.placeOf? target = some place ∧
    w.final.standing place = some (.file bytes) ∧
    (∀ q, q ≠ place → LeavesAlone fs target.parent w.final q) ∧
    ((∀ link, fs.standing place ≠ some (.link link)) → w.final.bytes? target = some bytes)
  raised : ∀ e, w.error = some e → ∀ q, LeavesAlone fs target.parent w.final q

theorem allOrNothing_of_leavesAlone {fs : FileSystem} {target : Path} {w : Writing}
    {e : WriteError} (hne : w.states ≠ []) (herror : w.error = some e)
    (h : ∀ s ∈ w.states, ∀ q, LeavesAlone fs target.parent s q) (bytes : ByteArray) :
    AllOrNothing fs target bytes w where
  throughout s hs place _ := .inl (h s hs place)
  returned hnone := nomatch hnone.symm.trans herror
  raised _ _ := h w.final (Writing.final_mem hne)

theorem makingStates_ne_nil (fs : FileSystem) (path : Path) : fs.makingStates path ≠ [] := by
  intro hnil
  have hlast := getLast?_makingStates fs path
  rw [hnil] at hlast
  cases hlast

section Beside

variable {fs ready : FileSystem} {target : Path} {position : List String}
  {cs : List (String × Entry)} {temporary : String} {bytes : ByteArray}

/-- Where the path of a file that was put into a directory leads to, if it replaced no link. -/
theorem bytes?_put (hwalk : ready.walk true target.parent = .entry position (.directory cs))
    (hnul : target.hasNul = false) (hempty : target.name ≠ "") (hdots : target.name ≠ "..")
    (hold : ∀ e, Assoc.get? target.name cs = some e → e.isFile = true) (bytes : ByteArray) :
    (ready.edit position (Assoc.put target.name (.file bytes))).bytes? target = some bytes := by
  have htarget := Path.child_parent_of_name hempty
  obtain ⟨-, hwalk'⟩ := putAt_file hwalk target.name hold bytes
  have hopened := walk_child hwalk' (htarget.symm ▸ hnul) hdots
    (by rw [Assoc.get?_put, if_pos rfl]) rfl
  rw [htarget] at hopened
  exact bytes?_eq_some.2 ⟨_, hopened⟩

theorem allOrNothing_beside (hready : fs.makeDirectories target.parent = (ready, none))
    (hnul : target.hasNul = false)
    (hwalk : ready.walk true target.parent = .entry position (.directory cs))
    (hfree : Assoc.get? temporary cs = none) (hne : temporary ≠ target.name) {w : Writing}
    (h : WrittenBeside ready position cs temporary target bytes w) :
    AllOrNothing fs target bytes ⟨fs.makingStates target.parent ++ w.states, w.error⟩ := by
  have hcs := at?_of_walk hwalk
  have hplace : fs.placeOf? target = some (position ++ [target.name]) := by
    rw [placeOf?, hready, directoryPosition?, hwalk]
    rfl
  have hbase (q : List String) : LeavesAlone fs target.parent ready q := by
    have hmade := makeDirectories_leavesAlone fs target.parent q
    rwa [hready] at hmade
  have hfinal : (⟨fs.makingStates target.parent ++ w.states, w.error⟩ : Writing).final =
      w.states.getLast?.getD ready := by
    rw [Writing.final, List.getLast?_append, getLast?_makingStates, hready]
    cases w.states.getLast? <;> rfl
  have hput (hfile : ∀ ds, Assoc.get? target.name cs ≠ some (.directory ds)) (q : List String) :
      (ready.edit position (Assoc.put target.name (.file bytes))).standing q =
        if q = position ++ [target.name] then some (.file bytes) else ready.standing q := by
    refine standing_edit_put hcs (fun e he => ?_) rfl q
    cases e with
    | directory ds => exact absurd he (hfile ds)
    | file _ | link _ => rfl
  refine ⟨fun s hs place hs' => ?_, fun herror => ?_, fun e herror q => ?_⟩
  · obtain rfl : position ++ [target.name] = place := Option.some.inj (hplace.symm.trans hs')
    rcases List.mem_append.1 hs with hs | hs
    · exact .inl (leavesAlone_of_mem_makingStates hs _)
    · rcases h.throughout s hs with rfl | ⟨b, rfl⟩ | ⟨herror, rfl⟩
      · exact .inl (hbase _)
      · refine .inl ((hbase _).congr ?_)
        rw [standing_edit_put hcs (fun e he => absurd he (by simp [hfree])) rfl, if_neg]
        exact fun heq => hne (List.cons.inj (List.append_cancel_left heq)).1.symm
      · obtain ⟨-, -, hfile, -⟩ := h.returned herror
        exact .inr (by rw [hput hfile, if_pos rfl])
  · obtain ⟨hempty, hdots, hfile, hlast⟩ := h.returned herror
    rw [hfinal, hlast, Option.getD_some]
    refine ⟨_, hplace, by rw [hput hfile, if_pos rfl], fun q hq => ?_, fun hlink => ?_⟩
    · exact (hbase q).congr (by rw [hput hfile, if_neg hq])
    · refine bytes?_put hwalk hnul hempty hdots (fun e he => ?_) bytes
      cases e with
      | file _ => rfl
      | directory ds => exact absurd he (hfile ds)
      | link link =>
          -- No directory that was made is a link, so the link stood there before.
          have hstanding : ready.standing (position ++ [target.name]) = some (.link link) := by
            rw [standing, Entry.at?_concat_directory hcs, he]
            rfl
          rcases hbase (position ++ [target.name]) with hsame | ⟨-, hmade, -⟩
          · exact absurd (hsame.symm.trans hstanding) (hlink link)
          · cases hmade.symm.trans hstanding
  · rw [hfinal, h.raised e herror]
    exact hbase q

end Beside

theorem writeFile_allOrNothing (fs : FileSystem) (target : Path) (bytes : ByteArray)
    (interruption : Option Interruption) :
    AllOrNothing fs target bytes (fs.writeFile target bytes interruption) := by
  have hmaking (s : FileSystem) (hs : s ∈ fs.makingStates target.parent) (q : List String) :
      LeavesAlone fs target.parent s q := leavesAlone_of_mem_makingStates hs q
  unfold writeFile
  dsimp only
  split
  · refine allOrNothing_of_leavesAlone ?_ rfl ?_ bytes
    · simp [makingStates_ne_nil]
    · exact fun s hs => hmaking s (List.mem_of_mem_take hs)
  · exact allOrNothing_of_leavesAlone (makingStates_ne_nil fs _) rfl hmaking bytes
  · rename_i ready hready
    split
    · exact allOrNothing_of_leavesAlone (makingStates_ne_nil fs _) rfl hmaking bytes
    · rename_i hnul
      obtain ⟨position, cs, hwalk⟩ := walk_of_makeDirectories hready
      have hfree := get?_freshName hwalk target.name
      exact allOrNothing_beside hready (Bool.eq_false_iff.2 hnul) hwalk hfree
        (freshName_spec _ target.name).2 (writeBeside_spec hwalk hfree bytes interruption)

end FileSystem

namespace Artifact

open FileSystem

/-- Writing an index to a path is all or nothing, whatever the file system, the path and the index
are, and whichever step fails. -/
theorem write_allOrNothing (fs : FileSystem) (path : Path) (i : Index)
    (interruption : Option Interruption) :
    AllOrNothing fs path (text i).toUTF8 (write fs path i interruption) := by
  unfold write
  split
  · refine allOrNothing_of_leavesAlone (List.cons_ne_nil _ _) rfl (fun s hs q => ?_) _
    rw [List.mem_singleton.1 hs]
    exact .refl fs path.parent q
  · exact writeFile_allOrNothing fs path _ interruption

end Artifact
end Exposure
