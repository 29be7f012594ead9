import Exposure.FileSystem.Change
import Exposure.Proofs.FileSystem.Listing

/-!
Changing what one directory lists. Putting a file and removing one are both such changes; as long as
they leave directories and links alone, every path to a directory leads there afterwards too, and
the directory lists what the change has made of it.
-/
namespace Exposure

namespace Assoc

theorem put_get? {α : Type} {key : String} {value : α} {m : List (String × α)}
    (h : get? key m = some value) : put key value m = m := by
  induction m with
  | nil => cases h
  | cons c m ih =>
      by_cases hc : c.1 = key
      · rw [get?, if_pos hc] at h
        rw [put, if_pos hc, ← Option.some.inj h]
      · rw [get?, if_neg hc] at h
        rw [put, if_neg hc, ih h]

theorem filter_put {α : Type} {key : String} {m : List (String × α)} (h : get? key m = none)
    (value : α) : ((put key value m).filter fun c => c.1 ≠ key) = m := by
  induction m with
  | nil => simp [put]
  | cons c m ih =>
      by_cases hc : c.1 = key
      · simp [get?, hc] at h
      · rw [get?, if_neg hc] at h
        rw [put, if_neg hc, List.filter_cons_of_pos (by simpa using hc), ih h]

end Assoc

namespace Entry

/-- The tree with another listing in the directory at a position. -/
def editAt (edit : List (String × Entry) → List (String × Entry)) : List String → Entry → Entry
  | [], directory cs => directory (edit cs)
  | name :: rest, directory cs =>
    match Assoc.get? name cs with
    | some e => directory (Assoc.put name (editAt edit rest e) cs)
    | none => directory cs
  | _, e => e

variable {edit : List (String × Entry) → List (String × Entry)} {root : Entry}

theorem put_concat (new : Entry) (position : List String) (name : String) (root : Entry) :
    put new (position ++ [name]) root = editAt (Assoc.put name new) position root := by
  induction position generalizing root with
  | nil => cases root <;> rfl
  | cons first rest ih =>
      obtain ⟨next, more, hrest⟩ : ∃ next more, rest ++ [name] = next :: more :=
        List.exists_cons_of_ne_nil (by simp)
      cases root with
      | file bytes => simp [put, editAt, hrest]
      | link target => simp [put, editAt, hrest]
      | directory cs =>
          simp only [List.cons_append, hrest, put, editAt]
          cases Assoc.get? first cs with
          | none => rfl
          | some child => simp only [← ih, hrest]

theorem remove_concat (position : List String) (name : String) (root : Entry) :
    root.remove (position ++ [name]) =
      editAt (fun cs => cs.filter fun c => c.1 ≠ name) position root := by
  induction position generalizing root with
  | nil => cases root <;> rfl
  | cons first rest ih =>
      obtain ⟨next, more, hrest⟩ : ∃ next more, rest ++ [name] = next :: more :=
        List.exists_cons_of_ne_nil (by simp)
      cases root with
      | file bytes => simp [remove, editAt, hrest]
      | link target => simp [remove, editAt, hrest]
      | directory cs =>
          simp only [List.cons_append, hrest, remove, editAt]
          cases Assoc.get? first cs with
          | none => rfl
          | some child => simp only [← ih, hrest]

theorem at?_editAt {position : List String} {cs : List (String × Entry)}
    (h : root.at? position = some (.directory cs)) :
    (editAt edit position root).at? position = some (.directory (edit cs)) := by
  induction position generalizing root with
  | nil =>
      cases h
      rfl
  | cons name rest ih =>
      obtain ⟨child, hchild, hrest⟩ := Option.bind_eq_some_iff.1 h
      cases root with
      | file bytes => cases hchild
      | link target => cases hchild
      | directory ds =>
          have hchild : Assoc.get? name ds = some child := hchild
          simp only [editAt, hchild, at?, children, Assoc.get?_put, if_true, Option.bind_some]
          exact ih hrest

theorem editAt_editAt (edit more : List (String × Entry) → List (String × Entry))
    (position : List String) (root : Entry) :
    editAt more position (editAt edit position root) = editAt (more ∘ edit) position root := by
  induction position generalizing root with
  | nil => cases root <;> rfl
  | cons name rest ih =>
      cases root with
      | file bytes => rfl
      | link target => rfl
      | directory cs =>
          cases hname : Assoc.get? name cs with
          | none => simp only [editAt, hname]
          | some child =>
              simp only [editAt, hname, Assoc.get?_put, if_true, ih, Assoc.put_put]

theorem editAt_id (position : List String) (root : Entry) : editAt id position root = root := by
  induction position generalizing root with
  | nil => cases root <;> rfl
  | cons name rest ih =>
      cases root with
      | file bytes => rfl
      | link target => rfl
      | directory cs =>
          cases hname : Assoc.get? name cs with
          | none => simp only [editAt, hname]
          | some child => simp only [editAt, hname, ih, Assoc.put_get? hname]

theorem editAt_congr {more : List (String × Entry) → List (String × Entry)}
    {position : List String} {cs : List (String × Entry)}
    (h : root.at? position = some (.directory cs)) (hedit : edit cs = more cs) :
    editAt edit position root = editAt more position root := by
  induction position generalizing root with
  | nil =>
      cases h
      rw [editAt, editAt, hedit]
  | cons name rest ih =>
      obtain ⟨child, hchild, hrest⟩ := Option.bind_eq_some_iff.1 h
      cases root with
      | file bytes => rfl
      | link target => rfl
      | directory ds =>
          have hchild : Assoc.get? name ds = some child := hchild
          simp only [editAt, hchild, ih hrest]

/-- A change that leaves directories and links alone keeps them where they are. -/
theorem agrees_editAt {position : List String} {cs : List (String × Entry)}
    (h : root.at? position = some (.directory cs))
    (hedit : ∀ name e, Assoc.get? name cs = some e → e.isFile = false →
      Assoc.get? name (edit cs) = some e) :
    Agrees (fun e => e.isFile = false) root (editAt edit position root) := by
  induction position generalizing root with
  | nil =>
      cases h
      rintro (_ | ⟨name, rest⟩) e he hfile
      · cases he
        exact ⟨_, rfl, rfl⟩
      · obtain ⟨child, hchild, hrest⟩ := Option.bind_eq_some_iff.1 he
        have hkind : child.isFile = false := by
          cases rest with
          | nil =>
              cases hrest
              exact hfile
          | cons next more =>
              cases child with
              | file bytes => cases hrest
              | link target => rfl
              | directory ds => rfl
        refine ⟨e, ?_, rfl⟩
        simp only [editAt, at?, children, hedit name child hchild hkind, Option.bind_some]
        exact hrest
  | cons first position ih =>
      obtain ⟨child, hchild, hposition⟩ := Option.bind_eq_some_iff.1 h
      cases root with
      | file bytes => cases hchild
      | link target => cases hchild
      | directory ds =>
          have hchild : Assoc.get? first ds = some child := hchild
          rintro (_ | ⟨name, rest⟩) e he hfile
          · cases he
            refine ⟨directory (Assoc.put first (editAt edit position child) ds), ?_, rfl⟩
            simp only [editAt, hchild, at?]
          · obtain ⟨below, hbelow, hrest⟩ := Option.bind_eq_some_iff.1 he
            have hbelow : Assoc.get? name ds = some below := hbelow
            simp only [editAt, hchild, at?, children, Assoc.get?_put]
            by_cases hname : first = name
            · subst hname
              cases hchild.symm.trans hbelow
              rw [if_pos rfl, Option.bind_some]
              exact ih hposition rest e hrest hfile
            · rw [if_neg hname, hbelow, Option.bind_some]
              exact ⟨e, hrest, rfl⟩

end Entry

namespace FileSystem

/-- The file system with another listing in the directory at a position. -/
def edit (fs : FileSystem) (position : List String)
    (change : List (String × Entry) → List (String × Entry)) : FileSystem :=
  { fs with root := fs.root.editAt change position }

variable {fs : FileSystem} {path : Path} {position : List String} {cs : List (String × Entry)}

theorem edit_edit (fs : FileSystem) (position : List String)
    (change more : List (String × Entry) → List (String × Entry)) :
    (fs.edit position change).edit position more = fs.edit position (more ∘ change) := by
  simp only [edit, Entry.editAt_editAt]

theorem edit_congr (h : fs.root.at? position = some (.directory cs))
    {change more : List (String × Entry) → List (String × Entry)} (hchange : change cs = more cs) :
    fs.edit position change = fs.edit position more := by
  simp only [edit, Entry.editAt_congr h hchange]

theorem edit_eq_self (h : fs.root.at? position = some (.directory cs))
    {change : List (String × Entry) → List (String × Entry)} (hchange : change cs = cs) :
    fs.edit position change = fs := by
  have hid : fs.edit position change = fs.edit position id := edit_congr h hchange
  rw [hid, edit, Entry.editAt_id]

theorem walk_edit (hwalk : fs.walk true path = .entry position (.directory cs))
    (change : List (String × Entry) → List (String × Entry))
    (hchange : ∀ name e, Assoc.get? name cs = some e → e.isFile = false →
      Assoc.get? name (change cs) = some e) :
    (fs.edit position change).walk true path = .entry position (.directory (change cs)) := by
  unfold walk at hwalk ⊢
  split at hwalk
  · cases hwalk
  · rename_i hnul
    obtain ⟨hcs, -⟩ := leads_of_walkFrom hwalk
    obtain ⟨e', hwalk', -⟩ :=
      walkFrom_agrees (Entry.agrees_editAt hcs hchange) (fun _ h => h) hwalk rfl
    obtain ⟨he', -⟩ := leads_of_walkFrom hwalk'
    cases (Entry.at?_editAt hcs).symm.trans he'
    rw [if_neg hnul]
    exact hwalk'

theorem hasNul_of_walk {follow : Bool} {e : Entry}
    (hwalk : fs.walk follow path = .entry position e) : path.hasNul = false := by
  unfold walk at hwalk
  split at hwalk
  · cases hwalk
  · exact Bool.eq_false_iff.2 ‹_›

/-- A path is followed into a directory that it leads to, if no link has the next name. -/
theorem walk_child (hwalk : fs.walk true path = .entry position (.directory cs)) {name : String}
    (hnul : (path.child name).hasNul = false) (hname : name ≠ "..") {e : Entry}
    (he : Assoc.get? name cs = some e) (hlink : e.isLink = false) :
    fs.walk true (path.child name) = .entry (position ++ [name]) e := by
  unfold walk at hwalk ⊢
  split at hwalk
  · cases hwalk
  · obtain ⟨hcs, -⟩ := leads_of_walkFrom hwalk
    obtain ⟨n, hn, -, hmore⟩ := walkFrom_through rfl hwalk
    have hstart : fs.start (path.child name) = fs.start path := rfl
    rw [if_neg (by simp [hnul]), hstart, Path.child, hmore true linkLimit [name] (.inl rfl),
      if_pos hn, walkFrom, hcs]
    cases e with
    | link target => cases hlink
    | file bytes =>
        simp only [hname, if_false, he, walkFrom, Entry.at?_concat_directory hcs]
    | directory ds =>
        simp only [hname, if_false, he, walkFrom, Entry.at?_concat_directory hcs]

/-- A file is put into a directory where at most a file has its name. -/
theorem putAt_file (hwalk : fs.walk true path = .entry position (.directory cs)) (name : String)
    (hname : ∀ e, Assoc.get? name cs = some e → e.isFile = true) (bytes : ByteArray) :
    fs.putAt (path.child name) (.file bytes) =
        .ok (fs.edit position (Assoc.put name (.file bytes))) ∧
      (fs.edit position (Assoc.put name (.file bytes))).walk true path =
        .entry position (.directory (Assoc.put name (.file bytes) cs)) := by
  have hparent : (path.child name).parent = path := by simp [Path.child, Path.parent]
  have hchild : (path.child name).name = name := by simp [Path.child, Path.name]
  refine ⟨?_, walk_edit hwalk _ fun other e he hfile => ?_⟩
  · simp only [putAt, hparent, hwalk, hchild, Entry.put_concat, edit]
    cases hget : Assoc.get? name cs with
    | none => rfl
    | some e =>
        cases e with
        | directory ds => cases hname _ hget
        | file bytes => rfl
        | link target => rfl
  · rw [Assoc.get?_put, if_neg, he]
    rintro rfl
    rw [hname e he] at hfile
    cases hfile

theorem remove_child (hwalk : fs.walk true path = .entry position (.directory cs))
    (name : String) :
    fs.remove (path.child name) = fs.edit position fun cs => cs.filter fun c => c.1 ≠ name := by
  have hparent : (path.child name).parent = path := by simp [Path.child, Path.parent]
  have hchild : (path.child name).name = name := by simp [Path.child, Path.name]
  simp only [remove, hparent, hwalk, hchild, Entry.remove_concat, edit]

theorem walk_of_isDirectory (h : fs.isDirectory path = true) :
    ∃ position cs, fs.walk true path = .entry position (.directory cs) := by
  obtain ⟨e, he, hdirectory⟩ := (Option.any_eq_true _ _).1 h
  obtain ⟨position, hwalk⟩ := walk_of_entry? he
  cases e with
  | directory cs => exact ⟨position, cs, hwalk⟩
  | file bytes => cases hdirectory
  | link target => cases hdirectory

theorem hasNul_parent (hnul : path.hasNul = false) : path.parent.hasNul = false := by
  simp only [Path.hasNul, List.any_eq_false, Path.parent] at hnul ⊢
  exact fun name hname => hnul name ((List.dropLast_sublist _).subset hname)

/-- Induction over making directories: the path is made as it is, or once those above it have been
made, or it is refused at some point. -/
@[elab_as_elim]
theorem makeDirectories_induction (fs : FileSystem)
    {motive : Path → FileSystem → Option ChangeError → Prop}
    (refused : ∀ path e, motive path fs (some e))
    (made : ∀ path fs', path.hasNul = false → fs.makeDirectory path = .ok fs' →
      fs.makeDirectories path = (fs', none) → motive path fs' none)
    (refusedAbove : ∀ path fs' e, motive path.parent fs' (some e) → motive path fs' (some e))
    (refusedBelow : ∀ path fs' e, motive path.parent fs' none → motive path fs' (some e))
    (madeBelow : ∀ path fs' fs'', path.hasNul = false → motive path.parent fs' none →
      fs'.makeDirectory path = .ok fs'' → fs.makeDirectories path = (fs'', none) →
      motive path fs'' none)
    (path : Path) : motive path (fs.makeDirectories path).1 (fs.makeDirectories path).2 := by
  cases hnul : path.hasNul with
  | true =>
      rw [makeDirectories, hnul, if_pos rfl]
      exact refused path _
  | false =>
      obtain ⟨depth, hdepth⟩ : ∃ depth, path.parts.length = depth := ⟨_, rfl⟩
      induction depth generalizing path with
      | zero =>
          have heq : fs.makeDirectories path = makeDirectoriesWithin 0 fs path := by
            rw [makeDirectories, hnul, if_neg Bool.false_ne_true, hdepth]
          unfold makeDirectoriesWithin at heq
          cases hmade : fs.makeDirectory path with
          | ok fs' =>
              rw [hmade] at heq
              rw [heq]
              exact made path fs' hnul hmade heq
          | error e =>
              rw [hmade] at heq
              cases e <;> (rw [heq]; exact refused path _)
      | succ depth ih =>
          have hparent : path.parent.parts.length = depth := by
            simp [Path.parent, hdepth]
          have habove := ih path.parent (hasNul_parent hnul) hparent
          have heq : fs.makeDirectories path = makeDirectoriesWithin (depth + 1) fs path := by
            rw [makeDirectories, hnul, if_neg Bool.false_ne_true, hdepth]
          have hwithin : makeDirectoriesWithin depth fs path.parent =
              fs.makeDirectories path.parent := by
            rw [makeDirectories, hasNul_parent hnul, if_neg Bool.false_ne_true, hparent]
          unfold makeDirectoriesWithin at heq
          cases hmade : fs.makeDirectory path with
          | ok fs' =>
              rw [hmade] at heq
              rw [heq]
              exact made path fs' hnul hmade heq
          | error e =>
              rw [hmade] at heq
              cases e with
              | missing =>
                  simp only [hwithin] at heq
                  cases hready : fs.makeDirectories path.parent with
                  | mk ready error =>
                      rw [hready] at heq habove
                      cases error with
                      | some e =>
                          rw [heq]
                          exact refusedAbove path ready e habove
                      | none =>
                          cases hagain : ready.makeDirectory path with
                          | error e =>
                              simp only [hagain] at heq
                              rw [heq]
                              exact refusedBelow path ready e habove
                          | ok fs'' =>
                              simp only [hagain] at heq
                              rw [heq]
                              exact madeBelow path ready fs'' hnul habove hagain heq
              | fileExists | notDirectory | isDirectory | linkLoop | nulCharacter | busy =>
                  rw [heq]
                  exact refused path _

end FileSystem
end Exposure
