import Exposure.Proofs.Pattern.FileName
import Exposure.Proofs.Scan.Extension
import Mathlib.Data.List.Sort

/-!
Ignore files of all directories against the one of the search root. Whatever the ignore files mean,
a scan that asks all of them yields only files that the one of the root lets through, as long as
this one is no link: a link is not asked there, while the scan that asks the root's alone follows
it.
-/
namespace Exposure

namespace FileSystem

variable {fs : FileSystem} {directory : Path} {position : List String}

/-- A path into a directory is followed through it, whatever is asked about its end. -/
theorem walk_into (hposition : fs.directoryPosition? directory = some position) {name : String}
    (hnul : (directory.child name).hasNul = false) :
    ∃ n, ∀ follow, fs.walk follow (directory.child name) =
      walkFrom fs.root follow (linkLimit - n) position [name] := by
  have hdirectory : fs.isDirectory directory = true := by
    rw [isDirectory_eq, hposition]
    rfl
  obtain ⟨p, cs, hwalk⟩ := walk_of_isDirectory hdirectory
  have hp : p = position := by
    rw [directoryPosition?, hwalk] at hposition
    exact Option.some.inj hposition
  subst hp
  unfold walk at hwalk
  split at hwalk
  · cases hwalk
  · obtain ⟨n, hn, -, hmore⟩ := walkFrom_through rfl hwalk
    refine ⟨n, fun follow => ?_⟩
    rw [walk, if_neg (by simp [hnul])]
    exact (hmore follow linkLimit [name] (.inr (List.cons_ne_nil _ _))).trans (if_pos hn)

/-- What is read under a name in a directory is a file there, if it is no link. -/
theorem at?_of_bytes?_child (hposition : fs.directoryPosition? directory = some position)
    {name : String} (hname : IsEntryName name) {bytes : ByteArray}
    (hbytes : fs.bytes? (directory.child name) = some bytes)
    (hlink : fs.isLink (directory.child name) = false) :
    fs.root.at? (position ++ [name]) = some (.file bytes) := by
  obtain ⟨p, hwalk⟩ := bytes?_eq_some.1 hbytes
  obtain ⟨-, ⟨cs, hcs⟩, -⟩ := leads_of_directoryPosition? hposition
  obtain ⟨n, hinto⟩ := walk_into hposition (hasNul_of_walk hwalk)
  have hdots : name ≠ ".." := hname.notDots
  rw [hinto, walkFrom] at hwalk
  rw [isLink, hinto, walkFrom] at hlink
  simp only [hcs, hdots, if_false] at hwalk hlink
  have hfound := Entry.at?_concat_directory hcs name
  cases hget : Assoc.get? name cs with
  | none => rw [hget] at hwalk; cases hwalk
  | some e =>
      rw [hget] at hwalk hlink hfound
      cases e with
      | link target => cases hlink
      | directory ds =>
          simp only [walkFrom, hfound] at hwalk
          cases hwalk
      | file bytes' =>
          simp only [walkFrom, hfound] at hwalk
          cases hwalk
          exact hfound

end FileSystem

namespace Ignore

/-- A test fails to find a path only if it lies outside the directory of the ignore file. -/
def Reader.Inside (read : Reader) : Prop :=
  ∀ directory bytes test path, read directory bytes = .ok test →
    test path = .error .outside → path.relativeTo? directory = none

/-- Every ignore file can be read, and has a verdict on all paths in its directory. -/
def Reader.Total (read : Reader) : Prop :=
  ∀ directory bytes, ∃ test, read directory bytes = .ok test ∧ ∀ path e,
    test path = .error e → e = .outside ∧ path.relativeTo? directory = none

theorem inside_readRules : readRules.Inside := by
  intro directory bytes test path hread houtside
  obtain ⟨file, hfile, rfl⟩ := map_eq_ok.1 hread
  rcases ignores_error houtside with h | ⟨-, h⟩
  · cases h
  · rwa [directory_ofBytes hfile] at h

theorem Reader.Total.inside {read : Reader} (h : read.Total) : read.Inside := by
  intro directory bytes test path hread houtside
  obtain ⟨test', hread', htest⟩ := h directory bytes
  cases hread.symm.trans hread'
  exact (htest path _ houtside).2

/-- No test of several ignores a path just if each has it or does not know it. -/
theorem anyIgnores_eq_false_iff {path : Path} {tests : List (Path → Except Fault Bool)} :
    anyIgnores path tests = .ok false ↔
      ∀ test ∈ tests, test path = .ok false ∨ test path = .error .outside := by
  induction tests with
  | nil => simp [anyIgnores]
  | cons test tests ih =>
      rw [anyIgnores, List.forall_mem_cons, ← ih]
      split
      · rename_i h
        simp [h]
      · rename_i h
        simp [h]
      · rename_i h
        simp [h]
      · rename_i e hne h
        simp only [h, reduceCtorEq, Except.error.injEq, false_or, false_iff, not_and]
        exact fun heq => absurd heq hne

/-- Tests that fail outside their directories only do not fail together. -/
theorem exists_anyIgnores {path : Path} {tests : List (Path → Except Fault Bool)}
    (h : ∀ test ∈ tests, ∀ e, test path = .error e → e = .outside) :
    ∃ verdict, anyIgnores path tests = .ok verdict := by
  induction tests with
  | nil => exact ⟨false, rfl⟩
  | cons test tests ih =>
      obtain ⟨htest, htests⟩ := List.forall_mem_cons.1 h
      rw [anyIgnores]
      split
      · exact ⟨true, rfl⟩
      · exact ih htests
      · exact ih htests
      · rename_i e hne hfault
        exact absurd (htest e hfault) hne

end Ignore

namespace Scan

/-- What the ignore file of the search root itself says about a path, if there is one. -/
def ownVerdict? (read : Ignore.Reader) (fs : FileSystem) (root path : Path) : Option Bool :=
  (ignoreTest read fs false root).toOption.bind fun test => (test path).toOption

/-- Asking the ignore files of all directories yields some of the files that asking the one of the
search root yields: those that this one lets through, which are all if it is no link. -/
structure OnlyHides (read : Ignore.Reader) (fs : FileSystem) (root : Path)
    (all own : List SourceFile) : Prop where
  allowed : (all.filter fun f => ownVerdict? read fs root f.path = some false).Sublist own
  all : fs.isLink (root.child Ignore.fileName) = false → all.Sublist own

variable {readers : Readers} {read : Ignore.Reader} {fs : FileSystem} {pattern : String}
  {filters : Filters} {nested : Bool} {root : Path}

/-- Files in strict order are part of other such files if these have them all. -/
theorem sublist_of_subset {files files' : List SourceFile}
    (h : files.Pairwise fun f g => f.relativePath < g.relativePath)
    (h' : files'.Pairwise fun f g => f.relativePath < g.relativePath)
    (hsubset : files ⊆ files') : files.Sublist files' := by
  have : Std.Irrefl fun f g : SourceFile => f.relativePath < g.relativePath :=
    ⟨fun f => lt_irrefl f.relativePath⟩
  have : Std.Antisymm fun f g : SourceFile => f.relativePath < g.relativePath :=
    ⟨fun f g hfg hgf => absurd hfg (lt_asymm hgf)⟩
  exact List.sublist_of_subperm_of_pairwise (List.subperm_of_subset h.nodup hsubset) h h'

/-- The ignore file of a search root is one of those in all directories, if it is no link. -/
theorem mem_ignoreDirectories_root (hwell : fs.root.WellFormed) {position : List String}
    (hposition : fs.directoryPosition? root = some position) {bytes : ByteArray}
    (hbytes : fs.bytes? (root.child Ignore.fileName) = some bytes)
    (hlink : fs.isLink (root.child Ignore.fileName) = false) :
    root ∈ ignoreDirectories fs root := by
  have hfile := FileSystem.at?_of_bytes?_child hposition (by decide) hbytes hlink
  have hreached : Reached fs ⟨root, [Ignore.fileName]⟩ :=
    ⟨List.cons_ne_nil _ _, position, bytes, hposition, hfile⟩
  have hparent : (SourceFile.path ⟨root, [Ignore.fileName]⟩).parent = root := by
    simp [SourceFile.path, Path.parent]
  refine List.mem_map.2 ⟨_, mem_inOrder.2 (List.mem_map.2 ⟨_, List.mem_filter.2
    ⟨(mem_regularFiles hwell).2 hreached, ?_⟩, rfl⟩), hparent⟩
  simp

/-- No ignore file hides a path just if each lets it through or does not know it. -/
theorem ignoreTest_nested_eq_false {test : Path → Except Ignore.Fault Bool}
    (htest : ignoreTest read fs true root = .ok test) {path : Path} :
    test path = .ok false ↔ ∀ d ∈ ignoreDirectories fs root, ∀ t,
      ignoreFile? read fs d = .ok (some t) → t path = .ok false ∨ t path = .error .outside := by
  obtain ⟨tests, htests, rfl⟩ := map_eq_ok.1 htest
  obtain ⟨hok, rfl⟩ := (mapM_eq_ok none).1 htests
  simp only [Ignore.anyIgnores_eq_false_iff, List.mem_filterMap, List.mem_map, id]
  constructor
  · intro h d hd t ht
    exact h t ⟨some t, ⟨d, hd, by rw [ht]; rfl⟩, rfl⟩
  · rintro h t ⟨_, ⟨d, hd, ht⟩, rfl⟩
    obtain ⟨found, hfound⟩ := hok d hd
    rw [hfound, toOption_ok, Option.getD_some] at ht
    exact h d hd t (ht ▸ hfound)

/-- A file that no ignore file hides is let through by the one of the search root. -/
theorem ownVerdict?_of_nested (hwell : fs.root.WellFormed) (hread : read.Inside)
    {test own : Path → Except Ignore.Fault Bool} (htest : ignoreTest read fs true root = .ok test)
    (hown : ignoreTest read fs false root = .ok own)
    (hlink : fs.isLink (root.child Ignore.fileName) = false) {f : SourceFile}
    (hroot : f.searchRoot = root) (hf : Reached fs f) (hverdict : test f.path = .ok false) :
    own f.path = .ok false := by
  rw [ignoreTest_nested_eq_false htest] at hverdict
  obtain ⟨ownTest, hownTest, rfl⟩ := map_eq_ok.1 hown
  cases ownTest with
  | none => rfl
  | some t =>
      cases hbytes : fs.bytes? (root.child Ignore.fileName) with
      | none => simp [ignoreFile?, hbytes] at hownTest
      | some bytes =>
          obtain ⟨-, position, -, hposition, -⟩ := hf
          rw [hroot] at hposition
          have hmem := mem_ignoreDirectories_root hwell hposition hbytes hlink
          rcases hverdict root hmem t hownTest with h | h
          · exact h
          · -- no path of a scanned file lies outside of the search root
            simp only [ignoreFile?, hbytes] at hownTest
            obtain ⟨t', ht', heq⟩ := map_eq_ok.1 hownTest
            cases heq
            have houtside := hread root bytes t f.path ht' h
            subst hroot
            rw [relativeTo?_below] at houtside
            cases houtside

theorem onlyHides (hwell : fs.root.WellFormed) (hread : readers.ignore.Inside)
    {all own : List SourceFile}
    (hall : filesBelowBy readers fs pattern filters true root = .ok all)
    (hown : filesBelowBy readers fs pattern filters false root = .ok own) :
    OnlyHides readers.ignore fs root all own := by
  obtain ⟨isName, test, hname, htest, -, hmem, horder⟩ := (filesBelowBy_eq_ok hwell).1 hall
  obtain ⟨isName', ownTest, hname', hownTest, -, hmem', horder'⟩ :=
    (filesBelowBy_eq_ok hwell).1 hown
  cases hname.symm.trans hname'
  -- the two tests are asked about the same files
  have hkeep {f : SourceFile} (hf : f ∈ all) (hverdict : ownTest f.path = .ok false) : f ∈ own := by
    obtain ⟨hreached, haccepts⟩ := (hmem f).1 hf
    obtain ⟨hmatch, houtside, -, hglobs⟩ := accepts_eq_true.1 haccepts
    exact (hmem' f).2 ⟨hreached, accepts_eq_true.2 ⟨hmatch, houtside, hverdict, hglobs⟩⟩
  constructor
  · refine sublist_of_subset (horder.sublist List.filter_sublist) horder' fun f hf => ?_
    obtain ⟨hf, hverdict⟩ := List.mem_filter.1 hf
    refine hkeep hf ?_
    rw [decide_eq_true_iff, ownVerdict?, hownTest, toOption_ok, Option.bind_some] at hverdict
    exact toOption_eq_some.1 hverdict
  · intro hlink
    refine sublist_of_subset horder horder' fun f hf => hkeep hf ?_
    obtain ⟨⟨hroot, hreached⟩, haccepts⟩ := (hmem f).1 hf
    obtain ⟨-, -, hverdict, -⟩ := accepts_eq_true.1 haccepts
    exact ownVerdict?_of_nested hwell hread htest hownTest hlink hroot hreached hverdict

/-- A reader that can read every ignore file gives a test, with a verdict on all scanned files. -/
theorem exists_ignoreTest (hread : read.Total) (fs : FileSystem) (nested : Bool) (root : Path) :
    ∃ test, ignoreTest read fs nested root = .ok test ∧
      ∀ parts, ∃ verdict, test (SourceFile.path ⟨root, parts⟩) = .ok verdict := by
  have hfile : ∀ directory, ∃ t, ignoreFile? read fs directory = .ok t ∧ ∀ test ∈ t, ∀ path e,
      test path = .error e → e = .outside ∧ path.relativeTo? directory = none := by
    intro directory
    rw [ignoreFile?]
    split
    · rename_i bytes hbytes
      obtain ⟨test, htest, hinside⟩ := hread directory bytes
      refine ⟨some test, by rw [htest]; rfl, fun test' htest' => ?_⟩
      cases htest'
      exact hinside
    · exact ⟨none, rfl, fun _ h => absurd h (Option.not_mem_none _)⟩
  cases nested with
  | false =>
      obtain ⟨t, ht, hinside⟩ := hfile root
      refine ⟨t.getD fun _ => .ok false, by simp only [ignoreTest, ht]; rfl, fun parts => ?_⟩
      cases t with
      | none => exact ⟨false, rfl⟩
      | some test =>
          rw [Option.getD_some]
          cases hverdict : test (SourceFile.path ⟨root, parts⟩) with
          | ok verdict => exact ⟨verdict, rfl⟩
          | error e =>
              have houtside := (hinside test rfl _ e hverdict).2
              rw [relativeTo?_below] at houtside
              cases houtside
  | true =>
      have htests := (mapM_eq_ok none).2 ⟨fun d (_ : d ∈ ignoreDirectories fs root) =>
        (hfile d).imp fun _ h => h.1, rfl⟩
      refine ⟨_, by simp only [ignoreTest, if_true, htests]; rfl, fun parts => ?_⟩
      refine Ignore.exists_anyIgnores fun test htest e he => ?_
      obtain ⟨t, ht, rfl⟩ := List.mem_filterMap.1 htest
      obtain ⟨d, -, hd⟩ := List.mem_map.1 ht
      obtain ⟨t, hread, hinside⟩ := hfile d
      rw [hread, toOption_ok, Option.getD_some] at hd
      exact (hinside test hd _ e he).1

theorem exists_filesBelowBy (hread : readers.ignore.Total) {isName : String → Bool}
    (hname : readers.pattern pattern = some isName) (hwell : fs.root.WellFormed)
    (filters : Filters) (nested : Bool) (root : Path) :
    ∃ files, filesBelowBy readers fs pattern filters nested root = .ok files := by
  obtain ⟨test, htest, hverdict⟩ := exists_ignoreTest hread fs nested root
  refine (filesBelowBy_spec hwell).1.1 ⟨isName, test, hname, htest, fun f hroot _ _ _ => ?_⟩
  subst hroot
  exact hverdict f.parts

/-- A directory with a source file, its ignore file and a list that tells to ignore the source. -/
def ignoringTree (own : Entry) : FileSystem :=
  ⟨.directory [(".gitignore", own), ("log.py", .file .empty), ("rules", .file "log.py".toUTF8)], []⟩

def ignoringRoot : Path := Path.absolute []

/-- Nested ignore files only hide more. Whatever tests the pattern and the ignore files stand for,
if each ignore file knows the paths in its own directory, both scans fail for the pattern alone;
otherwise asking the ignore files of all directories yields some of the files that asking the one of
the search root yields, but for what only a linked one of the root hides. The same holds, where both
scans succeed, of ignore files with rules. -/
theorem filesBelow_onlyHides (hwell : fs.root.WellFormed) (pattern : String) (filters : Filters)
    (root : Path) :
    (∀ readers : Readers, readers.ignore.Total →
      (readers.pattern pattern = none ∧
        ∀ nested, filesBelowBy readers fs pattern filters nested root = .error .badPattern) ∨
      ∃ all own, filesBelowBy readers fs pattern filters true root = .ok all ∧
        filesBelowBy readers fs pattern filters false root = .ok own ∧
        OnlyHides readers.ignore fs root all own) ∧
    ∀ all own, filesBelow fs pattern filters true root = .ok all →
      filesBelow fs pattern filters false root = .ok own →
      OnlyHides Ignore.readRules fs root all own := by
  refine ⟨fun readers hread => ?_, fun all own => onlyHides hwell Ignore.inside_readRules⟩
  cases hname : readers.pattern pattern with
  | none => exact .inl ⟨rfl, fun nested => by simp only [filesBelowBy, hname]⟩
  | some isName =>
      obtain ⟨all, hall⟩ := exists_filesBelowBy hread hname hwell filters true root
      obtain ⟨own, hown⟩ := exists_filesBelowBy hread hname hwell filters false root
      exact .inr ⟨all, own, hall, hown, onlyHides hwell hread.inside hall hown⟩

/-- The reader for which an ignore file hides one file beside it. -/
def readBeside (name : String) : Ignore.Reader := fun directory _ =>
  .ok fun path =>
    match path.relativeTo? directory with
    | some p => .ok (p.parts = [name])
    | none => .error .outside

theorem total_readBeside (name : String) : (readBeside name).Total := by
  intro directory bytes
  refine ⟨_, rfl, fun path e he => ?_⟩
  split at he
  · cases he
  · rename_i hnone
    cases he
    exact ⟨rfl, hnone⟩

/-- A directory in a directory, with an ignore file in each. -/
def nestedTree : FileSystem :=
  ⟨.directory [
    (".gitignore", .file .empty), ("log.py", .file .empty),
    ("app", .directory [(".gitignore", .file .empty), ("log.py", .file .empty),
      ("view.py", .file .empty)])], []⟩

def nestedReaders : Readers where
  pattern := Readers.standard.pattern
  ignore := readBeside "log.py"

theorem wellFormed_nestedTree : nestedTree.root.WellFormed := by
  have happ : (Entry.directory [(".gitignore", .file .empty), ("log.py", .file .empty),
      ("view.py", .file .empty)]).WellFormed :=
    Entry.wellFormed_directory (by decide) (by decide) (by simp [Entry.wellFormed_file])
  exact Entry.wellFormed_directory (by decide) (by decide) (by simp [Entry.wellFormed_file, happ])

theorem ignoreFile?_nestedTree {position : List String}
    (h : position = [] ∨ position = ["app"]) :
    ignoreFile? (readBeside "log.py") nestedTree (Path.absolute position) =
      .ok (some fun path =>
        match path.relativeTo? (Path.absolute position) with
        | some p => .ok (p.parts = ["log.py"])
        | none => .error .outside) := by
  have hbytes : nestedTree.bytes? ((Path.absolute position).child Ignore.fileName) =
      some ByteArray.empty := by
    rcases h with rfl | rfl
    · exact FileSystem.bytes?_eq_some.2 ⟨_, FileSystem.walk_absolute (by decide) rfl rfl⟩
    · exact FileSystem.bytes?_eq_some.2 ⟨_, FileSystem.walk_absolute (by decide) rfl rfl⟩
  rw [ignoreFile?, hbytes]
  rfl

theorem mem_ignoreDirectories_nestedTree {d : Path} :
    d ∈ ignoreDirectories nestedTree (Path.absolute []) ↔
      d = Path.absolute [] ∨ d = Path.absolute ["app"] := by
  have hposition : nestedTree.directoryPosition? (Path.absolute []) = some [] :=
    FileSystem.directoryPosition?_absolute (by decide) rfl
  have hfiles : (regularFiles nestedTree (Path.absolute [])).filter
      (fun p => p.getLast? = some Ignore.fileName) = [[".gitignore"], ["app", ".gitignore"]] := by
    rw [regularFiles_eq hposition rfl]
    decide
  simp only [ignoreDirectories, hfiles, List.mem_map, mem_inOrder]
  simp [SourceFile.path, Path.parent, Path.absolute, eq_comm]

theorem filesBelow_onlyHides_nestedTree : ∃ all own,
    filesBelowBy nestedReaders nestedTree defaultFilePattern {} true (Path.absolute []) = .ok all ∧
      filesBelowBy nestedReaders nestedTree defaultFilePattern {} false (Path.absolute []) =
        .ok own ∧
      all.Sublist own ∧ ⟨Path.absolute [], ["app", "view.py"]⟩ ∈ all ∧
      ⟨Path.absolute [], ["app", "log.py"]⟩ ∈ own ∧
      ⟨Path.absolute [], ["app", "log.py"]⟩ ∉ all := by
  have hwell := wellFormed_nestedTree
  have hposition : nestedTree.directoryPosition? (Path.absolute []) = some [] :=
    FileSystem.directoryPosition?_absolute (by decide) rfl
  have hsame : nestedReaders.pattern = Readers.standard.pattern := rfl
  have hpattern := standard_pattern Pattern.parse?_defaultFilePattern
  rw [← hsame] at hpattern
  have hlink : nestedTree.isLink ((Path.absolute []).child Ignore.fileName) = false := by
    simp [nestedTree, FileSystem.isLink, FileSystem.walk, FileSystem.walkFrom, FileSystem.start,
      Path.hasNul, Path.child, Path.absolute, Path.isAbsolute, Ignore.fileName, Entry.at?,
      Entry.children, Entry.isLink, Assoc.get?]
  have hqualifies {nested : Bool} {name : String} {test : Path → Except Ignore.Fault Bool}
      (hfile : nestedTree.root.at? ["app", name] = some (.file .empty))
      (hname : Pattern.fileNameRegex.occursIn name = true)
      (htest : ignoreTest nestedReaders.ignore nestedTree nested (Path.absolute []) = .ok test)
      (hverdict : test (SourceFile.path ⟨Path.absolute [], ["app", name]⟩) = .ok false) :
      Qualifies nestedReaders nestedTree defaultFilePattern {} nested
        ⟨Path.absolute [], ["app", name]⟩ :=
    ⟨⟨by simp, [], .empty, hposition, hfile⟩, ⟨_, hpattern, hname⟩, .inr (by simp),
      ⟨test, htest, hverdict⟩, .inl rfl, fun _ hglob => absurd hglob List.not_mem_nil⟩
  obtain ⟨all, own, hall, hown, hhides⟩ := ((filesBelow_onlyHides hwell defaultFilePattern {}
    (Path.absolute [])).1 nestedReaders (total_readBeside "log.py")).resolve_left
      fun h => by cases hpattern.symm.trans h.1
  obtain ⟨test, htest, -⟩ := exists_ignoreTest (total_readBeside "log.py") nestedTree true
    (Path.absolute [])
  refine ⟨all, own, hall, hown, hhides.all hlink,
    (((filesBelowBy_spec hwell).2 all hall).1 _).2 ⟨rfl, ?_⟩,
    (((filesBelowBy_spec hwell).2 own hown).1 _).2 ⟨rfl, ?_⟩, fun hmem => ?_⟩
  · refine hqualifies rfl (by decide +kernel) htest ?_
    rw [ignoreTest_nested_eq_false htest]
    intro d hd t ht
    rcases mem_ignoreDirectories_nestedTree.1 hd with rfl | rfl
    · cases (ignoreFile?_nestedTree (.inl rfl)).symm.trans ht
      exact .inl (by decide)
    · cases (ignoreFile?_nestedTree (.inr rfl)).symm.trans ht
      exact .inl (by decide)
  · have hfile := ignoreFile?_nestedTree (.inl rfl)
    exact hqualifies rfl (by decide +kernel) (map_eq_ok.2 ⟨_, hfile, rfl⟩) (by decide)
  · obtain ⟨-, hq⟩ := (((filesBelowBy_spec hwell).2 all hall).1 _).1 hmem
    obtain ⟨test', htest', hverdict⟩ := hq.notIgnored
    cases htest.symm.trans htest'
    rw [ignoreTest_nested_eq_false htest] at hverdict
    have happ := hverdict _ (mem_ignoreDirectories_nestedTree.2 (.inr rfl)) _
      (ignoreFile?_nestedTree (.inr rfl))
    revert happ
    decide

/-- The linked ignore file is no regular file. -/
theorem regularFiles_linkedIgnore :
    regularFiles (ignoringTree (.link "rules")) ignoringRoot = [["log.py"], ["rules"]] := by
  have hposition : (ignoringTree (.link "rules")).directoryPosition? ignoringRoot = some [] :=
    FileSystem.directoryPosition?_absolute (by decide) rfl
  rw [regularFiles_eq hposition rfl]
  rfl

theorem bytes?_linkedIgnore : (ignoringTree (.link "rules")).bytes?
    (ignoringRoot.child Ignore.fileName) = some "log.py".toUTF8 := by
  have htarget : Path.ofString "rules" = ⟨"", ["rules"]⟩ := by decide +kernel
  simp [ignoringTree, ignoringRoot, FileSystem.bytes?, FileSystem.entry?, FileSystem.walk,
    FileSystem.walkFrom, FileSystem.start, FileSystem.linkLimit, Path.hasNul, Path.child,
    Path.absolute, Path.isAbsolute, Ignore.fileName, Entry.at?, Entry.children, Assoc.get?, htarget]

/-- The source is found just if the test lets it through. -/
theorem filesBelow_linkedIgnore_eq {nested : Bool} {test : Path → Except Ignore.Fault Bool}
    (htest : ignoreTest Ignore.readRules (ignoringTree (.link "rules")) nested ignoringRoot =
      .ok test)
    {verdict : Bool} (hverdict : test (SourceFile.path ⟨ignoringRoot, ["log.py"]⟩) = .ok verdict) :
    filesBelow (ignoringTree (.link "rules")) defaultFilePattern {} nested ignoringRoot =
      .ok (if verdict then [] else [⟨ignoringRoot, ["log.py"]⟩]) := by
  have hname : Pattern.fileNameRegex.occursIn "log.py" = true := by decide +kernel
  have hother : Pattern.fileNameRegex.occursIn "rules" = false := by decide +kernel
  have haccepts : accepts Pattern.fileNameRegex.occursIn {} test ⟨ignoringRoot, ["log.py"]⟩ =
      .ok !verdict := by
    rw [accepts_eq, hverdict]
    simp [SourceFile.name, hname, Filters.outsideOutput, Filters.passesGlobs, Except.map]
  have hskips : accepts Pattern.fileNameRegex.occursIn {} test ⟨ignoringRoot, ["rules"]⟩ =
      .ok false := by
    rw [accepts_eq]
    simp [SourceFile.name, hother]
  have hkept : [⟨ignoringRoot, ["log.py"]⟩, ⟨ignoringRoot, ["rules"]⟩].filter (fun f =>
      (accepts Pattern.fileNameRegex.occursIn {} test f).toOption = some true) =
        if verdict then [] else [⟨ignoringRoot, ["log.py"]⟩] := by
    cases verdict <;> simp [List.filter, haccepts, hskips, toOption_ok]
  rw [filesBelow, filesBelowBy_eq (standard_pattern Pattern.parse?_defaultFilePattern) htest,
    regularFiles_linkedIgnore,
    List.map_cons, List.map_singleton, select_eq, if_pos, hkept]
  · cases verdict <;> simp [inOrder, Except.mapError]
  · simp [haccepts, hskips, toOption_ok]
  · rintro f hf e he
    have hroot : f.searchRoot = ignoringRoot := by
      obtain rfl | rfl := by simpa using hf
      · rfl
      · rfl
    rw [← hroot] at htest
    exact ignoreTest_error htest he

/-- The linked ignore file hides the source from the scan that asks it alone, and the other scan
does not ask it. -/
theorem filesBelow_linkedIgnore :
    filesBelow (ignoringTree (.link "rules")) defaultFilePattern {} true ignoringRoot =
        .ok [⟨ignoringRoot, ["log.py"]⟩] ∧
      filesBelow (ignoringTree (.link "rules")) defaultFilePattern {} false ignoringRoot =
        .ok [] := by
  have hrules : ((String.fromUTF8? "log.py".toUTF8).bind fun text =>
      (Ignore.File.ofText ignoringRoot text).toOption).any (fun file =>
        file.ignores (SourceFile.path ⟨ignoringRoot, ["log.py"]⟩) = .ok true) = true := by
    decide +kernel
  obtain ⟨file, hfile, hignores⟩ := (Option.any_eq_true _ _).1 hrules
  obtain ⟨text, htext, hfile⟩ := Option.bind_eq_some_iff.1 hfile
  have hnested : ignoreTest Ignore.readRules (ignoringTree (.link "rules")) true ignoringRoot =
      .ok fun _ => .ok false := by
    have hnone : ignoreDirectories (ignoringTree (.link "rules")) ignoringRoot = [] := by
      rw [ignoreDirectories, regularFiles_linkedIgnore]
      have : [["log.py"], ["rules"]].filter (fun p => p.getLast? = some Ignore.fileName) = [] := by
        decide
      simp [this, inOrder]
    rw [ignoreTest, hnone]
    rfl
  have hown : ignoreTest Ignore.readRules (ignoringTree (.link "rules")) false ignoringRoot =
      .ok file.ignores := by
    simp only [ignoreTest, ignoreFile?, bytes?_linkedIgnore, Ignore.readRules,
      Ignore.File.ofBytes, htext,
      toOption_eq_some.1 hfile]
    rfl
  exact ⟨filesBelow_linkedIgnore_eq hnested rfl,
    filesBelow_linkedIgnore_eq hown (of_decide_eq_true hignores)⟩

end Scan
end Exposure
