import Exposure.Proofs.Attempt
import Exposure.Proofs.FileSystem.Listing
import Exposure.Proofs.Scan.Order

/-!
The scan below one search root. It fails as a whole if the pattern is none, if an ignore file cannot
be read or if a rule that is needed for a verdict cannot be used; otherwise it yields just the files
that qualify, in the order of their paths, whatever the order in which directories list them.
-/
namespace Exposure

namespace Ignore

theorem firstVerdict_error {path : String} {rules : List Rule} {e : Fault}
    (h : firstVerdict path rules = .error e) : e = .badExpression := by
  induction rules with
  | nil => cases h
  | cons r rules ih =>
      rw [firstVerdict, Rule.isMatch] at h
      cases hregex : r.regex with
      | none =>
          rw [hregex] at h
          cases h
          rfl
      | some regex =>
          rw [hregex] at h
          cases hmatch : regex.occursIn path with
          | true => simp only [hmatch] at h; cases h
          | false => simp only [hmatch] at h; exact ih h

theorem ignores_error {f : File} {path : Path} {e : Fault} (h : f.ignores path = .error e) :
    e = .badExpression ∨ e = .outside ∧ path.relativeTo? f.directory = none := by
  unfold File.ignores at h
  split at h
  · cases h
  · rename_i hrelative
    cases h
    exact .inr ⟨rfl, hrelative⟩
  · exact .inl (firstVerdict_error h)

theorem anyIgnores_error {path : Path} {tests : List (Path → Except Fault Bool)}
    (htests : ∀ test ∈ tests, ∃ f : File, test = f.ignores) {e : Fault}
    (h : anyIgnores path tests = .error e) : e = .badExpression := by
  induction tests with
  | nil => cases h
  | cons test tests ih =>
      obtain ⟨⟨f, rfl⟩, hrest⟩ := List.forall_mem_cons.1 htests
      rw [anyIgnores] at h
      split at h
      · cases h
      · exact ih hrest h
      · exact ih hrest h
      · rename_i e' hne hfault
        cases h
        rcases ignores_error hfault with rfl | ⟨rfl, -⟩
        · rfl
        · exact absurd rfl hne

theorem directory_ofBytes {directory : Path} {bytes : ByteArray} {f : File}
    (h : File.ofBytes directory bytes = .ok f) : f.directory = directory := by
  unfold File.ofBytes File.ofText at h
  split at h
  · obtain ⟨rules, -, hf⟩ := bind_eq_ok.1 h
    cases hf
    rfl
  · cases h

end Ignore

namespace Scan

/-- A regular file, reached from its search root without entering a linked directory. -/
def Reached (fs : FileSystem) (f : SourceFile) : Prop :=
  f.parts ≠ [] ∧ ∃ position bytes, fs.directoryPosition? f.searchRoot = some position ∧
    fs.root.at? (position ++ f.parts) = some (.file bytes)

/-- What makes a file one of those that a scan of its search root yields. -/
structure Qualifies (readers : Readers) (fs : FileSystem) (pattern : String) (filters : Filters)
    (nested : Bool) (f : SourceFile) : Prop where
  reached : Reached fs f
  named : ∃ isName, readers.pattern pattern = some isName ∧ isName f.name = true
  outside : filters.outputDir = "" ∨ f.parts.head? ≠ some filters.outputDir
  notIgnored : ∃ ignores, ignoreTest readers.ignore fs nested f.searchRoot = .ok ignores ∧
    ignores f.path = .ok false
  included : filters.included = [] ∨
    ∃ glob ∈ filters.included, Glob.isMatch glob f.relativePath = true
  excluded : ∀ glob ∈ filters.excluded, Glob.isMatch glob f.relativePath = false

/-- Nothing keeps a search root from being scanned: the pattern is one, the ignore files can be
read, and they have a verdict on every file that they are asked about. -/
def Scannable (readers : Readers) (fs : FileSystem) (pattern : String) (filters : Filters)
    (nested : Bool) (root : Path) : Prop :=
  ∃ isName ignores, readers.pattern pattern = some isName ∧
    ignoreTest readers.ignore fs nested root = .ok ignores ∧
    ∀ f, f.searchRoot = root → Reached fs f → isName f.name = true →
      filters.outsideOutput f.parts = true → ∃ verdict, ignores f.path = .ok verdict

variable {fs fs' : FileSystem}

theorem regularFiles_eq {root : Path} {position : List String} {cs : List (String × Entry)}
    (hposition : fs.directoryPosition? root = some position)
    (hcs : fs.root.at? position = some (.directory cs)) :
    regularFiles fs root =
      (((Entry.directory cs).descendants []).filter fun d => d.2.isFile).map Prod.fst := by
  rw [← List.filterMap_eq_map, List.filterMap_filter]
  simp only [regularFiles, hposition, hcs, Function.comp]

theorem mem_regularFiles (h : fs.root.WellFormed) {root : Path} {p : List String} :
    p ∈ regularFiles fs root ↔ Reached fs ⟨root, p⟩ := by
  cases hposition : fs.directoryPosition? root with
  | none => simp [regularFiles, Reached, hposition]
  | some position =>
      obtain ⟨-, ⟨cs, hcs⟩, -⟩ := FileSystem.leads_of_directoryPosition? hposition
      have hreached : Reached fs ⟨root, p⟩ ↔
          p ≠ [] ∧ ∃ bytes, (Entry.directory cs).at? p = some (.file bytes) := by
        simp [Reached, hposition, Entry.at?_append, hcs]
      rw [hreached, regularFiles_eq hposition hcs, List.mem_map]
      constructor
      · rintro ⟨⟨p, e⟩, hmem, rfl⟩
        obtain ⟨hmem, hfile⟩ := List.mem_filter.1 hmem
        obtain ⟨hp, he⟩ := (Entry.mem_descendants (h.at? hcs)).1 hmem
        cases e with
        | file bytes => exact ⟨hp, bytes, he⟩
        | link target => cases hfile
        | directory ds => cases hfile
      · rintro ⟨hp, bytes, he⟩
        exact ⟨_, List.mem_filter.2 ⟨(Entry.mem_descendants (h.at? hcs)).2 ⟨hp, he⟩, rfl⟩, rfl⟩

theorem nodup_regularFiles (h : fs.root.WellFormed) (root : Path) :
    (regularFiles fs root).Nodup := by
  cases hposition : fs.directoryPosition? root with
  | none => simp [regularFiles, hposition]
  | some position =>
      obtain ⟨-, ⟨cs, hcs⟩, -⟩ := FileSystem.leads_of_directoryPosition? hposition
      rw [regularFiles_eq hposition hcs]
      exact (Entry.nodup_descendants (h.at? hcs) []).sublist (List.filter_sublist.map _)

theorem named_of_reached (h : fs.root.WellFormed) {f : SourceFile} (hf : Reached fs f) :
    Named f := by
  obtain ⟨hparts, position, bytes, -, hfile⟩ := hf
  exact ⟨hparts, fun name hname => h.isEntryName hfile name (by simp [hname])⟩

theorem distinct_regularFiles (h : fs.root.WellFormed) (root : Path) :
    Distinct ((regularFiles fs root).map fun p => ⟨root, p⟩) :=
  distinct_below (nodup_regularFiles h root) fun _ hp =>
    named_of_reached h ((mem_regularFiles h).1 hp)

theorem mem_regular (h : fs.root.WellFormed) {root : Path} {f : SourceFile} :
    f ∈ (regularFiles fs root).map (fun p => (⟨root, p⟩ : SourceFile)) ↔
      f.searchRoot = root ∧ Reached fs f := by
  constructor
  · intro hf
    obtain ⟨p, hp, rfl⟩ := List.mem_map.1 hf
    exact ⟨rfl, (mem_regularFiles h).1 hp⟩
  · rintro ⟨rfl, hf⟩
    exact List.mem_map.2 ⟨f.parts, (mem_regularFiles h).2 hf, rfl⟩

theorem relativeTo?_below (root : Path) (parts : List String) :
    (SourceFile.path ⟨root, parts⟩).relativeTo? root = some ⟨"", parts⟩ := by
  simp [SourceFile.path, Path.relativeTo?]

/-- The rules fail on a file below their root in one way only. -/
theorem ignoreTest_error {nested : Bool} {f : SourceFile}
    {ignores : Path → Except Ignore.Fault Bool}
    (h : ignoreTest Ignore.readRules fs nested f.searchRoot = .ok ignores) {e : Ignore.Fault}
    (he : ignores f.path = .error e) : e = .badExpression := by
  have hread {directory : Path} {test : Path → Except Ignore.Fault Bool}
      (htest : ignoreFile? Ignore.readRules fs directory = .ok (some test)) :
      ∃ file : Ignore.File, file.directory = directory ∧ test = file.ignores := by
    unfold ignoreFile? at htest
    split at htest
    · obtain ⟨t, ht, heq⟩ := map_eq_ok.1 htest
      cases heq
      obtain ⟨file, hfile, rfl⟩ := map_eq_ok.1 ht
      exact ⟨file, Ignore.directory_ofBytes hfile, rfl⟩
    · cases htest
  unfold ignoreTest at h
  split at h
  · obtain ⟨tests, htests, rfl⟩ := map_eq_ok.1 h
    obtain ⟨hok, rfl⟩ := (mapM_eq_ok none).1 htests
    refine Ignore.anyIgnores_error (fun test htest => ?_) he
    obtain ⟨t, ht, heq⟩ := List.mem_filterMap.1 htest
    cases heq
    obtain ⟨d, hd, heq⟩ := List.mem_map.1 ht
    obtain ⟨found, hfound⟩ := hok d hd
    rw [hfound, toOption_ok, Option.getD_some] at heq
    subst heq
    obtain ⟨file, -, rfl⟩ := hread hfound
    exact ⟨file, rfl⟩
  · obtain ⟨test, htest, rfl⟩ := map_eq_ok.1 h
    cases test with
    | none => cases he
    | some test =>
        obtain ⟨file, hfile, rfl⟩ := hread htest
        rcases Ignore.ignores_error he with rfl | ⟨rfl, houtside⟩
        · rfl
        · rw [hfile, relativeTo?_below] at houtside
          cases houtside

section Select

variable {isName : String → Bool} {filters : Filters} {ignores : Path → Except Ignore.Fault Bool}

/-- The ignore test is asked about files with the right name in the right place. -/
theorem accepts_eq (f : SourceFile) :
    accepts isName filters ignores f =
      if isName f.name && filters.outsideOutput f.parts then
        (ignores f.path).map fun ignored => !ignored && filters.passesGlobs f.relativePath
      else .ok false := by
  unfold accepts
  split
  · cases ignores f.path with
    | error e => rfl
    | ok ignored => cases ignored <;> rfl
  · rfl

theorem accepts_isSome {f : SourceFile} :
    (accepts isName filters ignores f).toOption.isSome ↔
      (isName f.name = true → filters.outsideOutput f.parts = true →
        ∃ verdict, ignores f.path = .ok verdict) := by
  rw [accepts_eq]
  split
  · rename_i hasked
    rw [Bool.and_eq_true] at hasked
    cases hverdict : ignores f.path with
    | error e => simp [Except.map, toOption_error, hasked]
    | ok ignored => simp [Except.map, toOption_ok]
  · rename_i hasked
    rw [Bool.and_eq_true, not_and] at hasked
    simp only [toOption_ok, Option.isSome_some, true_iff]
    exact fun hname houtside => absurd houtside (hasked hname)

theorem accepts_eq_true {f : SourceFile} :
    (accepts isName filters ignores f).toOption = some true ↔
      isName f.name = true ∧ filters.outsideOutput f.parts = true ∧
        ignores f.path = .ok false ∧ filters.passesGlobs f.relativePath = true := by
  rw [accepts_eq]
  split
  · rename_i hasked
    rw [Bool.and_eq_true] at hasked
    cases hverdict : ignores f.path with
    | error e => simp [Except.map, toOption_error]
    | ok ignored => cases ignored <;> simp [Except.map, toOption_ok, hasked]
  · rename_i hasked
    rw [Bool.and_eq_true] at hasked
    simp only [toOption_ok, Option.some.injEq, Bool.false_eq_true, false_iff]
    exact fun h => hasked ⟨h.1, h.2.1⟩

/-- A selection succeeds just if each file has a verdict. -/
theorem select_eq_ok {files found : List SourceFile} :
    select isName filters ignores files = .ok found ↔
      (∀ f ∈ files, (accepts isName filters ignores f).toOption.isSome) ∧
        found = inOrder (files.filter fun f =>
          (accepts isName filters ignores f).toOption = some true) := by
  simp only [select, map_eq_ok, filterM_eq_ok, Option.isSome_iff_exists, toOption_eq_some]
  constructor
  · rintro ⟨_, ⟨hfiles, rfl⟩, rfl⟩
    exact ⟨hfiles, rfl⟩
  · rintro ⟨hfiles, rfl⟩
    exact ⟨_, ⟨hfiles, rfl⟩, rfl⟩

theorem select_eq {files : List SourceFile}
    (h : ∀ f ∈ files, ∀ e, ignores f.path = .error e → e = .badExpression) :
    select isName filters ignores files =
      if ∀ f ∈ files, (accepts isName filters ignores f).toOption.isSome
      then .ok (inOrder (files.filter fun f =>
        (accepts isName filters ignores f).toOption = some true))
      else .error .badExpression := by
  have hfault : ∀ f ∈ files, ∀ e, accepts isName filters ignores f = .error e →
      e = .badExpression := by
    intro f hf e he
    rw [accepts_eq] at he
    split at he
    · cases hverdict : ignores f.path with
      | error e' =>
          rw [hverdict] at he
          cases he
          exact h f hf _ hverdict
      | ok ignored =>
          rw [hverdict] at he
          cases he
    · cases he
  rw [select, filterM_eq hfault]
  split <;> rfl

/-- What is selected does not depend on the order of the files. -/
theorem select_perm_eq_ok {files files' : List SourceFile} (hdistinct : Distinct files)
    (hperm : files'.Perm files) {found : List SourceFile} :
    select isName filters ignores files' = .ok found ↔
      select isName filters ignores files = .ok found := by
  simp only [select_eq_ok, hperm.mem_iff]
  rw [inOrder_eq_of_perm (hdistinct.sublist List.filter_sublist) (hperm.filter _)]

theorem select_perm {files files' : List SourceFile}
    (h : ∀ f ∈ files, ∀ e, ignores f.path = .error e → e = .badExpression)
    (hdistinct : Distinct files) (hperm : files'.Perm files) :
    select isName filters ignores files' = select isName filters ignores files := by
  rw [select_eq h, select_eq fun f hf => h f (hperm.mem_iff.1 hf)]
  simp only [hperm.mem_iff]
  rw [inOrder_eq_of_perm (hdistinct.sublist List.filter_sublist) (hperm.filter _)]

end Select

section Relisted

open FileSystem

variable (h : fs.root.WellFormed) (h' : fs'.root.WellFormed) (hr : Relisted fs fs')

include hr in
theorem reached_relisted {f : SourceFile} : Reached fs' f ↔ Reached fs f := by
  simp only [Reached, hr.directoryPosition?, hr.file_iff]

include h h' hr in
theorem regularFiles_relisted (root : Path) :
    (regularFiles fs' root).Perm (regularFiles fs root) := by
  refine (List.perm_ext_iff_of_nodup (nodup_regularFiles h' root)
    (nodup_regularFiles h root)).2 fun p => ?_
  rw [mem_regularFiles h', mem_regularFiles h, reached_relisted hr]

include h h' hr in
theorem ignoreTest_relisted (read : Ignore.Reader) (nested : Bool) (root : Path) :
    ignoreTest read fs' nested root = ignoreTest read fs nested root := by
  have hfile : ignoreFile? read fs' = ignoreFile? read fs := by
    funext directory
    rw [ignoreFile?, ignoreFile?, hr.bytes?]
  have hdirectories : ignoreDirectories fs' root = ignoreDirectories fs root := by
    simp only [ignoreDirectories]
    rw [inOrder_eq_of_perm ((distinct_regularFiles h root).sublist (List.filter_sublist.map _))
      (((regularFiles_relisted h h' hr root).filter _).map _)]
  rw [ignoreTest, ignoreTest, hfile, hdirectories]

variable (readers : Readers) (pattern : String) (filters : Filters) (nested : Bool) (root : Path)

include h h' hr in
/-- The scan below a search root does not depend on the order in which directories list, but for the
fault that it meets first. -/
theorem filesBelowBy_relisted {files : List SourceFile} :
    filesBelowBy readers fs' pattern filters nested root = .ok files ↔
      filesBelowBy readers fs pattern filters nested root = .ok files := by
  unfold filesBelowBy
  rw [ignoreTest_relisted h h' hr]
  cases readers.pattern pattern with
  | none => exact Iff.rfl
  | some isName =>
      simp only [bind_eq_ok, mapError_eq_ok, select_perm_eq_ok (distinct_regularFiles h root)
        ((regularFiles_relisted h h' hr root).map _)]

include h h' hr in
theorem filesBelow_relisted :
    filesBelow fs' pattern filters nested root = filesBelow fs pattern filters nested root := by
  unfold filesBelow filesBelowBy
  rw [ignoreTest_relisted h h' hr]
  cases Readers.standard.pattern pattern with
  | none => rfl
  | some isName =>
      cases hignores : ignoreTest Readers.standard.ignore fs nested root with
      | error e => rfl
      | ok ignores =>
          have hselect : select isName filters ignores
                ((regularFiles fs' root).map fun p => ⟨root, p⟩) =
              select isName filters ignores
                ((regularFiles fs root).map fun p => ⟨root, p⟩) := by
            refine select_perm (fun f hf e he => ?_) (distinct_regularFiles h root)
              ((regularFiles_relisted h h' hr root).map _)
            obtain ⟨rfl, -⟩ := (mem_regular h).1 hf
            exact ignoreTest_error hignores he
          simp only [Except.mapError, bind, Except.bind, hselect]

end Relisted

section Below

variable {readers : Readers} {pattern : String} {filters : Filters} {nested : Bool} {root : Path}

theorem outsideOutput_iff {parts : List String} :
    filters.outsideOutput parts = true ↔
      filters.outputDir = "" ∨ parts.head? ≠ some filters.outputDir := by
  simp [Filters.outsideOutput]

theorem passesGlobs_iff {relativePath : String} :
    filters.passesGlobs relativePath = true ↔
      (filters.included = [] ∨ ∃ glob ∈ filters.included, Glob.isMatch glob relativePath = true) ∧
        ∀ glob ∈ filters.excluded, Glob.isMatch glob relativePath = false := by
  simp [Filters.passesGlobs]

/-- With a pattern and an ignore test the scan is a selection among the regular files. -/
theorem filesBelowBy_eq {isName : String → Bool} {ignores : Path → Except Ignore.Fault Bool}
    (hname : readers.pattern pattern = some isName)
    (hignores : ignoreTest readers.ignore fs nested root = .ok ignores) :
    filesBelowBy readers fs pattern filters nested root =
      (select isName filters ignores
        ((regularFiles fs root).map fun p => ⟨root, p⟩)).mapError .ignore := by
  simp only [filesBelowBy, hname, hignores]
  rfl

theorem standard_pattern_eq_some {isName : String → Bool} :
    Readers.standard.pattern pattern = some isName ↔ ∃ regex,
      Pattern.parse? { ignoreCase := true } pattern = some regex ∧ regex.occursIn = isName :=
  Option.map_eq_some_iff

theorem standard_pattern {regex : Pattern.Regex}
    (hregex : Pattern.parse? { ignoreCase := true } pattern = some regex) :
    Readers.standard.pattern pattern = some regex.occursIn :=
  standard_pattern_eq_some.2 ⟨regex, hregex, rfl⟩

/-- A root with one file, of which the name matches, and without an ignore file. -/
theorem filesBelow_only {parts : List String} {regex : Pattern.Regex}
    (hregex : Pattern.parse? { ignoreCase := true } pattern = some regex)
    (hname : regex.occursIn (SourceFile.name ⟨root, parts⟩) = true)
    (hbytes : fs.bytes? (root.child Ignore.fileName) = none)
    (hfiles : regularFiles fs root = [parts]) (name : String) :
    filesBelow fs pattern ⟨name, [], []⟩ false root =
      .ok (if Filters.outsideOutput ⟨name, [], []⟩ parts then [⟨root, parts⟩] else []) := by
  have hignores : ignoreTest Readers.standard.ignore fs false root = .ok fun _ => .ok false := by
    simp only [ignoreTest, ignoreFile?, hbytes]
    rfl
  rw [filesBelow, filesBelowBy_eq (standard_pattern hregex) hignores, hfiles,
    select_eq (by simp)]
  cases hout : Filters.outsideOutput ⟨name, [], []⟩ parts <;>
    simp [accepts_eq, hout, hname, Filters.passesGlobs, toOption_ok, inOrder, Except.map,
      Except.mapError]

/-- A scan that succeeds yields what it accepts, in the strict order of the paths. -/
theorem filesBelowBy_eq_ok (h : fs.root.WellFormed) {files : List SourceFile} :
    filesBelowBy readers fs pattern filters nested root = .ok files ↔
      ∃ isName ignores, readers.pattern pattern = some isName ∧
        ignoreTest readers.ignore fs nested root = .ok ignores ∧
        (∀ f, f.searchRoot = root → Reached fs f →
          (accepts isName filters ignores f).toOption.isSome) ∧
        (∀ f, f ∈ files ↔ (f.searchRoot = root ∧ Reached fs f) ∧
          (accepts isName filters ignores f).toOption = some true) ∧
        files.Pairwise fun f g => f.relativePath < g.relativePath := by
  have hfound (isName : String → Bool) (ignores : Path → Except Ignore.Fault Bool) :
      (∀ f, f ∈ inOrder (((regularFiles fs root).map fun p => ⟨root, p⟩).filter fun f =>
          (accepts isName filters ignores f).toOption = some true) ↔
        (f.searchRoot = root ∧ Reached fs f) ∧
          (accepts isName filters ignores f).toOption = some true) ∧
      (inOrder (((regularFiles fs root).map fun p => ⟨root, p⟩).filter fun f =>
          (accepts isName filters ignores f).toOption = some true)).Pairwise
        fun f g => f.relativePath < g.relativePath := by
    refine ⟨fun f => ?_, inOrder_pairwise
      ((distinct_regularFiles h root).sublist List.filter_sublist)⟩
    rw [mem_inOrder, List.mem_filter, mem_regular h, decide_eq_true_iff]
  cases hname : readers.pattern pattern with
  | none => simp [filesBelowBy, hname]
  | some isName =>
      cases hignores : ignoreTest readers.ignore fs nested root with
      | error e => simp [filesBelowBy, hname, hignores, Except.mapError, bind, Except.bind]
      | ok ignores =>
          rw [filesBelowBy_eq hname hignores, mapError_eq_ok, select_eq_ok]
          obtain ⟨hmem, horder⟩ := hfound isName ignores
          constructor
          · rintro ⟨hall, rfl⟩
            exact ⟨isName, ignores, rfl, rfl,
              fun f hroot hf => hall f ((mem_regular h).2 ⟨hroot, hf⟩), hmem, horder⟩
          · rintro ⟨_, _, heq, heq', hall, hmem', horder'⟩
            cases heq
            cases heq'
            refine ⟨fun f hf => ?_, eq_of_mem_iff horder' horder fun f => ?_⟩
            · obtain ⟨hroot, hreached⟩ := (mem_regular h).1 hf
              exact hall f hroot hreached
            · rw [hmem, hmem']

/-- The scan succeeds just if nothing keeps its root from being scanned. Then it yields the files
that qualify, in the strict order of their paths. -/
theorem filesBelowBy_spec (h : fs.root.WellFormed) :
    (Scannable readers fs pattern filters nested root ↔
      ∃ files, filesBelowBy readers fs pattern filters nested root = .ok files) ∧
    ∀ files, filesBelowBy readers fs pattern filters nested root = .ok files →
      (∀ f, f ∈ files ↔ f.searchRoot = root ∧ Qualifies readers fs pattern filters nested f) ∧
      files.Pairwise fun f g => f.relativePath < g.relativePath := by
  refine ⟨⟨?_, ?_⟩, ?_⟩
  · rintro ⟨isName, ignores, hname, hignores, hverdicts⟩
    have hall : ∀ f ∈ (regularFiles fs root).map (fun p => (⟨root, p⟩ : SourceFile)),
        (accepts isName filters ignores f).toOption.isSome := by
      intro f hf
      obtain ⟨hroot, hreached⟩ := (mem_regular h).1 hf
      exact accepts_isSome.2 (hverdicts f hroot hreached)
    exact ⟨_, (filesBelowBy_eq hname hignores).trans (mapError_eq_ok.2
      (select_eq_ok.2 ⟨hall, rfl⟩))⟩
  · rintro ⟨files, hfiles⟩
    obtain ⟨isName, ignores, hname, hignores, hall, -, -⟩ := (filesBelowBy_eq_ok h).1 hfiles
    exact ⟨isName, ignores, hname, hignores, fun f hroot hf => accepts_isSome.1 (hall f hroot hf)⟩
  · intro files hfiles
    obtain ⟨isName, ignores, hname, hignores, -, hmem, horder⟩ := (filesBelowBy_eq_ok h).1 hfiles
    refine ⟨fun f => ?_, horder⟩
    rw [hmem, and_assoc, accepts_eq_true, outsideOutput_iff, passesGlobs_iff]
    refine and_congr_right ?_
    rintro rfl
    constructor
    · rintro ⟨hreached, hmatch, houtside, hignored, hincluded, hexcluded⟩
      exact ⟨hreached, ⟨isName, hname, hmatch⟩, houtside, ⟨ignores, hignores, hignored⟩,
        hincluded, hexcluded⟩
    · rintro ⟨hreached, ⟨isName', hname', hmatch⟩, houtside, ⟨ignores', hignores', hignored⟩,
        hincluded, hexcluded⟩
      cases hname.symm.trans hname'
      cases hignores.symm.trans hignores'
      exact ⟨hreached, hmatch, houtside, hignored, hincluded, hexcluded⟩

end Below

end Scan
end Exposure
