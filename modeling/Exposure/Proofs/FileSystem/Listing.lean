import Exposure.Proofs.FileSystem.Walk

/-!
What one file system has of another. Where all entries of one stand in another, paths that can be
opened lead to the same places there, and the same bytes are read. Two file systems that hold the
same at every position differ only in the order in which their directories list.
-/
namespace Exposure

namespace Entry

/-- An entry without what it lists. -/
def bare : Entry → Entry
  | directory _ => directory []
  | e => e

theorem bare_eq_file {e : Entry} {bytes : ByteArray} (h : e.bare = file bytes) :
    e = file bytes := by
  cases e <;> cases h
  rfl

theorem bare_eq_link {e : Entry} {target : String} (h : e.bare = link target) :
    e = link target := by
  cases e <;> cases h
  rfl

theorem bare_eq_directory {e : Entry} (h : e.bare = directory []) : ∃ cs, e = directory cs := by
  cases e with
  | directory cs => exact ⟨cs, rfl⟩
  | file bytes => cases h
  | link target => cases h

/-- Entries of a certain kind stand in the second tree where they stand in the first, up to what
they list. -/
def Agrees (kind : Entry → Prop) (root root' : Entry) : Prop :=
  ∀ position e, root.at? position = some e → kind e →
    ∃ e', root'.at? position = some e' ∧ e'.bare = e.bare

end Entry

namespace FileSystem

/-- A path that can be opened runs through directories and links only. Where these stand again, it
can be opened again and leads to the same position. -/
theorem walkFrom_agrees {kind : Entry → Prop} {root root' : Entry}
    (h : Entry.Agrees kind root root') (hkind : ∀ e, e.isFile = false → kind e)
    {budget : Nat} {at_ todo p : List String} {e : Entry}
    (hwalk : walkFrom root true budget at_ todo = .entry p e) (he : kind e) :
    ∃ e', FileSystem.walkFrom root' true budget at_ todo = .entry p e' ∧ e'.bare = e.bare := by
  have directory {position : List String} {cs : List (String × Entry)}
      (hcs : root.at? position = some (.directory cs)) :
      ∃ cs', root'.at? position = some (.directory cs') := by
    obtain ⟨e', he', hbare⟩ := h position _ hcs (hkind _ rfl)
    obtain ⟨cs', rfl⟩ := Entry.bare_eq_directory hbare
    exact ⟨cs', he'⟩
  fun_induction FileSystem.walkFrom root true budget at_ todo with
  | case1 budget at_ e hat =>
      cases hwalk
      obtain ⟨e', he', hbare⟩ := h _ _ hat he
      exact ⟨e', by rw [FileSystem.walkFrom, he'], hbare⟩
  | case3 budget at_ rest cs hcs ih =>
      obtain ⟨cs', hcs'⟩ := directory hcs
      obtain ⟨e', he', hbare⟩ := ih hwalk
      exact ⟨e', by simpa only [FileSystem.walkFrom, hcs', if_true] using he', hbare⟩
  | case7 at_ name rest cs hcs hname target hget hlast budget t ih =>
      obtain ⟨cs', hcs'⟩ := directory hcs
      obtain ⟨e', he', hbare⟩ := ih hwalk
      rw [← Entry.at?_concat_directory hcs] at hget
      obtain ⟨link', hlink', hlink⟩ := h _ _ hget (hkind _ rfl)
      rw [Entry.at?_concat_directory hcs', Entry.bare_eq_link hlink] at hlink'
      refine ⟨e', ?_, hbare⟩
      simp only [FileSystem.walkFrom, hcs', hname, if_false, hlink', hlast, Bool.false_eq_true]
      exact he'
  | case8 budget at_ name rest cs hcs hname found hlink hget ih =>
      obtain ⟨cs', hcs'⟩ := directory hcs
      rw [← Entry.at?_concat_directory hcs] at hget
      -- a file is found at the very end only
      have hfound : kind found := by
        cases found with
        | link target => exact absurd rfl (hlink target)
        | directory ds => exact hkind _ rfl
        | file bytes =>
            cases rest with
            | nil =>
                rw [FileSystem.walkFrom, hget] at hwalk
                cases hwalk
                exact he
            | cons next rest =>
                rw [FileSystem.walkFrom, hget] at hwalk
                cases hwalk
      obtain ⟨e', he', hbare⟩ := ih hwalk
      obtain ⟨found', hfound', hsame⟩ := h _ _ hget hfound
      rw [Entry.at?_concat_directory hcs'] at hfound'
      refine ⟨e', ?_, hbare⟩
      cases found' with
      | link target => exact absurd (Entry.bare_eq_link hsame.symm) (hlink target)
      | file bytes => simpa only [FileSystem.walkFrom, hcs', hname, if_false, hfound'] using he'
      | directory ds => simpa only [FileSystem.walkFrom, hcs', hname, if_false, hfound'] using he'
  | case5 => simp_all
  | case2 | case4 | case6 | case9 | case10 => cases hwalk

/-- What stands in the first file system stands in the second one too. -/
structure Keeps (fs fs' : FileSystem) : Prop where
  workingDirectory : fs'.workingDirectory = fs.workingDirectory
  entries : Entry.Agrees (fun _ => True) fs.root fs'.root

section Keeps

variable {fs fs' fs'' : FileSystem}

theorem Keeps.trans (h : Keeps fs fs') (h' : Keeps fs' fs'') : Keeps fs fs'' := by
  refine ⟨h'.workingDirectory.trans h.workingDirectory, fun position e he _ => ?_⟩
  obtain ⟨e', he', hbare⟩ := h.entries position e he trivial
  obtain ⟨e'', he'', hbare'⟩ := h'.entries position e' he' trivial
  exact ⟨e'', he'', hbare'.trans hbare⟩

theorem Keeps.file (h : Keeps fs fs') {position : List String} {bytes : ByteArray}
    (he : fs.root.at? position = some (.file bytes)) :
    fs'.root.at? position = some (.file bytes) := by
  obtain ⟨e', he', hbare⟩ := h.entries _ _ he trivial
  rw [he', Entry.bare_eq_file hbare]

theorem Keeps.link (h : Keeps fs fs') {position : List String} {target : String}
    (he : fs.root.at? position = some (.link target)) :
    fs'.root.at? position = some (.link target) := by
  obtain ⟨e', he', hbare⟩ := h.entries _ _ he trivial
  rw [he', Entry.bare_eq_link hbare]

theorem Keeps.start (h : Keeps fs fs') (path : Path) : fs'.start path = fs.start path := by
  rw [FileSystem.start, FileSystem.start, h.workingDirectory]

/-- A path that can be opened leads to the same position. -/
theorem Keeps.walk (h : Keeps fs fs') {path : Path} {p : List String} {e : Entry}
    (hwalk : fs.walk true path = .entry p e) :
    ∃ e', fs'.walk true path = .entry p e' ∧ e'.bare = e.bare := by
  unfold FileSystem.walk at hwalk ⊢
  split at hwalk
  · cases hwalk
  · rw [if_neg ‹_›, h.start]
    exact walkFrom_agrees h.entries (fun _ _ => trivial) hwalk trivial

theorem Keeps.directoryPosition? (h : Keeps fs fs') {path : Path} {p : List String}
    (hp : fs.directoryPosition? path = some p) : fs'.directoryPosition? path = some p := by
  unfold FileSystem.directoryPosition? at hp ⊢
  cases hwalk : fs.walk true path with
  | entry position e =>
      rw [hwalk] at hp
      obtain ⟨e', hwalk', hbare⟩ := h.walk hwalk
      have hdirectory : e'.isDirectory = e.isDirectory := by
        cases e <;> cases e' <;> first | rfl | cases hbare
      simpa only [hwalk', hdirectory] using hp
  | missing => rw [hwalk] at hp; cases hp
  | notDirectory => rw [hwalk] at hp; cases hp
  | loop => rw [hwalk] at hp; cases hp

theorem isDirectory_eq (fs : FileSystem) (path : Path) :
    fs.isDirectory path = (fs.directoryPosition? path).isSome := by
  unfold isDirectory entry? FileSystem.directoryPosition?
  cases fs.walk true path with
  | entry p e => cases e <;> rfl
  | missing => rfl
  | notDirectory => rfl
  | loop => rfl

theorem Keeps.isDirectory (h : Keeps fs fs') {path : Path} (hpath : fs.isDirectory path = true) :
    fs'.isDirectory path = true := by
  rw [isDirectory_eq, Option.isSome_iff_exists] at hpath ⊢
  obtain ⟨p, hp⟩ := hpath
  exact ⟨p, h.directoryPosition? hp⟩

theorem bytes?_eq_some {path : Path} {bytes : ByteArray} :
    fs.bytes? path = some bytes ↔ ∃ p, fs.walk true path = .entry p (.file bytes) := by
  unfold bytes? entry?
  cases hwalk : fs.walk true path with
  | entry p e => cases e <;> simp
  | missing => simp
  | notDirectory => simp
  | loop => simp

theorem Keeps.bytes? (h : Keeps fs fs') {path : Path} {bytes : ByteArray}
    (hbytes : fs.bytes? path = some bytes) : fs'.bytes? path = some bytes := by
  obtain ⟨p, hwalk⟩ := bytes?_eq_some.1 hbytes
  obtain ⟨e', hwalk', hbare⟩ := h.walk hwalk
  rw [Entry.bare_eq_file hbare] at hwalk'
  exact bytes?_eq_some.2 ⟨p, hwalk'⟩

end Keeps

/-- The second file system is the first one with directories listed in another order. -/
structure Relisted (fs fs' : FileSystem) : Prop where
  workingDirectory : fs'.workingDirectory = fs.workingDirectory
  entries : ∀ position,
    (fs'.root.at? position).map Entry.bare = (fs.root.at? position).map Entry.bare

variable {fs fs' : FileSystem}

theorem Relisted.symm (h : Relisted fs fs') : Relisted fs' fs :=
  ⟨h.workingDirectory.symm, fun position => (h.entries position).symm⟩

/-- Listing a directory at the top in another order relists the file system. -/
theorem relisted_of_perm {cs ds : List (String × Entry)} (hnodup : (Assoc.keys cs).Nodup)
    (hperm : ds.Perm cs) (at_ : List String) :
    Relisted ⟨.directory cs, at_⟩ ⟨.directory ds, at_⟩ := by
  refine ⟨rfl, fun position => ?_⟩
  cases position with
  | nil => rfl
  | cons name rest =>
      have hnodup' : (Assoc.keys ds).Nodup := (hperm.map Prod.fst).nodup_iff.2 hnodup
      have hget : Assoc.get? name ds = Assoc.get? name cs := Option.ext fun e =>
        ⟨fun h => Assoc.get?_of_mem hnodup (hperm.mem_iff.1 (Assoc.mem_of_get? h)),
          fun h => Assoc.get?_of_mem hnodup' (hperm.mem_iff.2 (Assoc.mem_of_get? h))⟩
      simp only [Entry.at?, Entry.children, hget]

/-- Either one of two relisted file systems keeps what stands in the other. -/
theorem Relisted.keeps (h : Relisted fs fs') : Keeps fs fs' := by
  refine ⟨h.workingDirectory, fun position e he _ => ?_⟩
  have hentry := h.entries position
  rw [he] at hentry
  exact Option.map_eq_some_iff.1 hentry

theorem Relisted.file_iff (h : Relisted fs fs') {position : List String} {bytes : ByteArray} :
    fs'.root.at? position = some (.file bytes) ↔ fs.root.at? position = some (.file bytes) :=
  ⟨h.symm.keeps.file, h.keeps.file⟩

theorem Relisted.directoryPosition? (h : Relisted fs fs') (path : Path) :
    fs'.directoryPosition? path = fs.directoryPosition? path :=
  Option.ext fun _ => ⟨h.symm.keeps.directoryPosition?, h.keeps.directoryPosition?⟩

theorem Relisted.bytes? (h : Relisted fs fs') (path : Path) : fs'.bytes? path = fs.bytes? path :=
  Option.ext fun _ => ⟨h.symm.keeps.bytes?, h.keeps.bytes?⟩

theorem Relisted.isDirectory (h : Relisted fs fs') (path : Path) :
    fs'.isDirectory path = fs.isDirectory path := by
  rw [isDirectory_eq, isDirectory_eq, h.directoryPosition?]

end FileSystem
end Exposure
