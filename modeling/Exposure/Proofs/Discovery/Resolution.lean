import Exposure.Discovery.Run
import Exposure.Proofs.Module.Provenance
import Exposure.Proofs.Scan.Roots
import Exposure.Proofs.Verification.Repetition

/-!
Which class a file gets, in whatever program a discovery runs. A class is looked up by the name of
the module alone; so it is the one that the file declares if no other file is found under this name,
and need not be if one is.
-/
namespace Exposure

open Eval Source

/-- What is known of the modules that a program keeps by their names, over its states. -/
structure ModuleTable (σ : Type) where
  /-- The states that come up. -/
  valid : σ → Prop
  /-- Whether there is a module, and the file that was run for it if it has one. -/
  file? : σ → String → Option (Option Path)
  /-- From a search root, or from none, the name of a module leads to a file. -/
  finds : Option Path → String → Option Path → Prop
  /-- A file declares a class. -/
  declares : Option Path → String → Class → Prop

namespace ModuleTable

variable {σ : Type}

/-- The modules that were there stay as they are, and new ones are found from some origins. -/
structure Step (t : ModuleTable σ) (origins : List (Option Path)) (w w' : σ) : Prop where
  valid : t.valid w'
  grown : ∀ m, t.file? w' m = t.file? w m ∨ t.file? w m = none ∧
    ∃ file, t.file? w' m = some file ∧ ∃ origin ∈ origins, t.finds origin m file

namespace Step

variable {t : ModuleTable σ} {origins more : List (Option Path)} {w w' w'' : σ} {m : String}
  {file : Option Path}

theorem refl (h : t.valid w) : t.Step origins w w := ⟨h, fun _ => .inl rfl⟩

theorem mono (h : t.Step origins w w') (hmore : origins ⊆ more) : t.Step more w w' := by
  refine ⟨h.valid, fun m => (h.grown m).imp_right fun hnew => ?_⟩
  obtain ⟨hnone, file, hfile, origin, horigin, hfinds⟩ := hnew
  exact ⟨hnone, file, hfile, origin, hmore horigin, hfinds⟩

theorem keeps (h : t.Step origins w w') (hfile : t.file? w m = some file) :
    t.file? w' m = some file := by
  cases h.grown m with
  | inl hsame => exact hsame.trans hfile
  | inr hnew => cases hfile.symm.trans hnew.1

theorem found (h : t.Step origins w w') (hnone : t.file? w m = none)
    (hfile : t.file? w' m = some file) : ∃ origin ∈ origins, t.finds origin m file := by
  cases h.grown m with
  | inl hsame => cases hnone.symm.trans (hsame.symm.trans hfile)
  | inr hnew =>
      obtain ⟨-, file', hfile', hfound⟩ := hnew
      cases hfile.symm.trans hfile'
      exact hfound

theorem trans (h : t.Step origins w w') (h' : t.Step origins w' w'') : t.Step origins w w'' := by
  refine ⟨h'.valid, fun m => ?_⟩
  cases h'.grown m with
  | inl hsame =>
      rw [hsame]
      exact h.grown m
  | inr hnew =>
      obtain ⟨hnone, hfound⟩ := hnew
      cases h.grown m with
      | inl hsame => exact .inr ⟨hsame.symm.trans hnone, hfound⟩
      | inr hnew' =>
          obtain ⟨-, file, hfile, -⟩ := hnew'
          cases hnone.symm.trans hfile

/-- What counts of a table is its modules. -/
theorem ofTable {t' : ModuleTable σ} (h : t.Step origins w w') (hfile : t'.file? = t.file?)
    (hfinds : t'.finds = t.finds) (hvalid : t'.valid w') : t'.Step origins w w' := by
  refine ⟨hvalid, ?_⟩
  rw [hfile, hfinds]
  exact h.grown

end Step

end ModuleTable

/-- From where modules may be found while files are read. -/
def SourceFile.origins (files : List SourceFile) : List (Option Path) :=
  none :: files.map fun f => some f.searchRoot

theorem SourceFile.origins_subset {part files : List SourceFile} (h : part ⊆ files) :
    origins part ⊆ origins files :=
  List.cons_subset_cons _ (List.map_subset _ h)

/-- What a discovery of some files relies on. A name stands for a class in a module only if the file
of the module declares this class. Modules that are there are not loaded again; a module that is
loaded is found from the search root, and so are those that it loads. A class that is asked for its
purposes may load modules too. -/
structure Host.Imports {σ : Type} (h : Host σ) (t : ModuleTable σ) (files : List SourceFile) :
    Prop where
  declared : ∀ {w m name c}, t.valid w → h.class? w m name = some c →
    ∃ file, t.file? w m = some file ∧ t.declares file name c
  load : ∀ {f w}, f ∈ files → t.valid w →
    t.Step [some f.searchRoot] w (h.load f.searchRoot f.moduleName w).2
  asked : ∀ {c w}, t.valid w → t.Step [none] w (h.asked c w)

namespace World

/-- The modules that are kept as texts are run. A file declares what its names stand for. -/
def table (fs : FileSystem) : ModuleTable World where
  valid _ := True
  file? w m := (Assoc.get? m w.loaded).map Loaded.file
  finds := Module.FoundAs fs
  declares file name c := ∃ w m, World.class? w m name = some c ∧
    (Assoc.get? m w.loaded).map Loaded.file = some file

theorem loaded_of_class? {w : World} {m name : String} {c : Class} (h : w.class? m name = some c) :
    ∃ l, Assoc.get? m w.loaded = some l := by
  unfold class? at h
  split at h
  · rename_i hlookup
    obtain ⟨l, hl, -⟩ := Option.bind_eq_some_iff.1 hlookup
    exact ⟨l, hl⟩
  · cases h

theorem Gains.step {fs : FileSystem} {root : Option Path} {w w' : World}
    (h : w.Gains (Module.FoundAs fs root) w') : (table fs).Step [root] w w' := by
  refine ⟨trivial, fun m => ?_⟩
  dsimp only [table]
  cases h m with
  | inl hsame => exact .inl (by rw [hsame])
  | inr hnew =>
      obtain ⟨hnone, l, hl, hfound⟩ := hnew
      rw [hnone, hl]
      exact .inr ⟨rfl, l.file, rfl, root, List.mem_singleton_self _, hfound⟩

/-- Running source texts satisfies what a discovery relies on. -/
theorem imports_host (fs : FileSystem) (files : List SourceFile) :
    (host fs).Imports (table fs) files where
  declared := by
    intro w m name c _ hc
    obtain ⟨l, hl⟩ := loaded_of_class? hc
    have hfile : (Assoc.get? m w.loaded).map Loaded.file = some l.file := congrArg _ hl
    exact ⟨l.file, hfile, w, m, hc, hfile⟩
  load := by
    intro f w _ _
    have hR := ofTable_gains (Module.FoundAs fs (some f.searchRoot))
    exact ((acts_loadModule fs f.searchRoot f.moduleName).discard hR w).step
  asked _ := .refl trivial

end World

namespace FileReport

variable {σ : Type} {h : Host σ} {fs : FileSystem} {tree : SourceTree}

theorem ofFilesBy_append (files more : List SourceFile) (w : σ) :
    (ofFilesBy h fs tree (files ++ more) w).2 =
      (ofFilesBy h fs tree more (ofFilesBy h fs tree files w).2).2 := by
  induction files generalizing w with
  | nil => rfl
  | cons f files ih => exact ih _

/-- Each report is that of a file, in the state that the files before it leave. -/
theorem mem_ofFilesBy {files : List SourceFile} {w : σ} {r : FileReport}
    (hr : r ∈ (ofFilesBy h fs tree files w).1) :
    ∃ pre f post, files = pre ++ f :: post ∧
      r = (ofFileBy h fs tree f (ofFilesBy h fs tree pre w).2).1 := by
  induction files generalizing w with
  | nil => cases hr
  | cons f files ih =>
      cases List.mem_cons.1 hr with
      | inl heq => exact ⟨[], f, files, rfl, heq⟩
      | inr hr =>
          obtain ⟨pre, g, post, rfl, heq⟩ := ih hr
          exact ⟨f :: pre, g, post, rfl, heq⟩

section Imports

variable {t : ModuleTable σ} {files : List SourceFile} (himports : h.Imports t files)

include himports

theorem step_resolveBy {f : SourceFile} (hf : f ∈ files) (name : String) {w : σ}
    (hw : t.valid w) :
    t.Step [some f.searchRoot] w (f.resolveBy h name w).2 ∧
      ∀ c, (f.resolveBy h name w).1 = .ok c → ∃ file,
        t.file? (f.resolveBy h name w).2 f.moduleName = some file ∧ t.declares file name c := by
  have hload := himports.load hf hw
  unfold SourceFile.resolveBy
  split
  · rename_i c hc
    refine ⟨.refl hw, fun d hd => ?_⟩
    cases hd
    exact himports.declared hw hc
  · split
    · rename_i r v hends
      rw [hends] at hload
      exact ⟨hload, fun _ hd => by cases hd⟩
    · rename_i u v hends
      rw [hends] at hload
      split
      · rename_i c hc
        refine ⟨hload, fun d hd => ?_⟩
        cases hd
        exact himports.declared hload.valid hc
      · exact ⟨hload, fun _ hd => by cases hd⟩

/-- What the report of one file does and tells. -/
theorem step_ofFileBy {f : SourceFile} (hf : f ∈ files) {w : σ} (hw : t.valid w) :
    t.Step (SourceFile.origins [f]) w (ofFileBy h fs tree f w).2 ∧
      (ofFileBy h fs tree f w).1.file = f ∧
      ∀ key c, (ofFileBy h fs tree f w).1.found = some (key, c) → ∃ source name file,
        f.text fs = .ok source ∧
        Outline.declaredClassNameBy (h.classNames source) f.name source = some name ∧
        key = f.classNameIn name ∧ t.declares file name c ∧
        t.file? (ofFileBy h fs tree f w).2 f.moduleName = some file ∧
        (t.file? w f.moduleName = none → t.finds (some f.searchRoot) f.moduleName file) := by
  unfold ofFileBy
  split
  · exact ⟨.refl hw, rfl, fun _ _ hc => by cases hc⟩
  · rename_i source htext
    split
    · exact ⟨.refl hw, rfl, fun _ _ hc => by cases hc⟩
    · rename_i name hname
      obtain ⟨hstep, hfound⟩ := step_resolveBy himports hf name hw
      split
      · rename_i fault v hresolve
        rw [hresolve] at hstep
        exact ⟨hstep.mono (List.subset_cons_self _ _), rfl, fun _ _ hc => by cases hc⟩
      · rename_i c v hresolve
        rw [hresolve] at hstep hfound
        have hasked := @Host.Imports.asked _ _ _ _ himports c _ hstep.valid
        refine ⟨(hstep.mono (List.subset_cons_self _ _)).trans
          (hasked.mono (List.cons_subset_cons _ (List.nil_subset _))), rfl, fun key d hd => ?_⟩
        obtain ⟨rfl, rfl⟩ := Prod.mk.inj (Option.some.inj hd)
        obtain ⟨file, hfile, hdeclares⟩ := hfound c rfl
        refine ⟨source, name, file, htext, hname, rfl, hdeclares, hasked.keeps hfile,
          fun hnone => ?_⟩
        obtain ⟨origin, horigin, hfinds⟩ := hstep.found hnone hfile
        cases List.mem_singleton.1 horigin
        exact hfinds

/-- What the reports of several files do. -/
theorem step_ofFilesBy {part : List SourceFile} (hpart : part ⊆ files) {w : σ}
    (hw : t.valid w) : t.Step (SourceFile.origins part) w (ofFilesBy h fs tree part w).2 := by
  induction part generalizing w with
  | nil => exact .refl hw
  | cons f part ih =>
      obtain ⟨hf, hpart⟩ := List.cons_subset.1 hpart
      obtain ⟨hstep, -, -⟩ := @step_ofFileBy _ _ fs tree _ _ himports f hf _ hw
      have hfirst : [f] ⊆ f :: part := List.cons_subset_cons f (List.nil_subset part)
      exact (hstep.mono (SourceFile.origins_subset hfirst)).trans
        ((ih hpart hstep.valid).mono (SourceFile.origins_subset (List.subset_cons_self f part)))

end Imports

end FileReport

namespace Discovery

/-- The file of this name in a directory. -/
def logFile (position : List String) : SourceFile := ⟨Path.absolute position, ["log.py"]⟩

section LogFile

variable {fs : FileSystem} {position : List String} {bytes : ByteArray}
  (hnames : ∀ n ∈ position, IsEntryName n)
  (hroot : fs.root.at? position = some (.directory [("log.py", .file bytes)]))

include hnames hroot

theorem walk_logFile :
    fs.walk true (logFile position).path = .entry (position ++ ["log.py"]) (.file bytes) := by
  have hfile : fs.root.at? (position ++ ["log.py"]) = some (.file bytes) :=
    (Entry.at?_concat_directory hroot _).trans rfl
  have hall : ∀ n ∈ position ++ ["log.py"], IsEntryName n :=
    List.forall_mem_append.2 ⟨hnames, by decide⟩
  exact FileSystem.walk_absolute hall hfile rfl

theorem bytes_logFile : fs.bytes? (logFile position).path = some bytes := by
  rw [FileSystem.bytes?, FileSystem.entry?, walk_logFile hnames hroot]

/-- The module of the file is looked for in two places, of which only the file is there. -/
theorem places_logFile :
    fs.isFile (((Path.absolute position).child "log").child Module.packageFile) = false ∧
      fs.isFile ((Path.absolute position).child "log.py") = true := by
  constructor
  · have hwalk : fs.walk true (((Path.absolute position).child "log").child Module.packageFile) =
        .missing := by
      have hall : ∀ n ∈ position ++ ["log", Module.packageFile], IsEntryName n :=
        List.forall_mem_append.2 ⟨hnames, by decide⟩
      have hmissing := FileSystem.walk_absolute_missing hall hroot rfl
      rwa [Path.child, Path.child, Path.absolute, List.append_assoc]
    rw [FileSystem.isFile, FileSystem.entry?, hwalk]
    rfl
  · have hwalk : fs.walk true ((Path.absolute position).child "log.py") =
        .entry (position ++ ["log.py"]) (.file bytes) := walk_logFile hnames hroot
    rw [FileSystem.isFile, FileSystem.entry?, hwalk]
    rfl

theorem findIn_logFile :
    Module.findIn fs "log" [] [Path.absolute position] =
      some (.file (logFile position).path) := by
  obtain ⟨hmissing, hfile⟩ := places_logFile hnames hroot
  simp only [Module.findIn, hmissing, Bool.and_false, Bool.false_eq_true, if_false]
  exact if_pos hfile

/-- The module of the file is loaded by running the text of the file. -/
theorem ends_loadModule_logFile {w : World} (hnew : Assoc.get? "log" w.loaded = none) :
    (loadModule fs (Path.absolute position) "log").ends w =
      (makeModule fs (services fs [Path.absolute position] (callLimit - 1)) "log"
        (.file (logFile position).path)).ends w := by
  have hsplit : splitPackage "log" = (none, "log") := rfl
  have hload : (services fs [Path.absolute position] callLimit).load =
      loadStep fs [Path.absolute position] (services fs [Path.absolute position] (callLimit - 1)) :=
    rfl
  rw [loadModule, if_neg (by decide), if_neg (by decide), hload, loadStep, ends_get_bind, hnew]
  simp only [hsplit, findIn_logFile hnames hroot]

/-- From the directory, or from none, the name of the module leads to the file. -/
theorem path_of_foundAs {origin : Option Path} {p : Option Path}
    (horigin : origin = none ∨ origin = some (Path.absolute position))
    (h : Module.FoundAs fs origin "log" p) : p = some (logFile position).path := by
  obtain ⟨directories, found, hfind, rfl, hdirectories⟩ := h
  have hsplit : splitPackage "log" = (none, "log") := rfl
  rw [hsplit] at hfind hdirectories
  cases horigin with
  | inl hnone =>
      rw [hdirectories rfl, hnone] at hfind
      cases hfind
  | inr hsome =>
      rw [hdirectories rfl, hsome] at hfind
      cases (findIn_logFile hnames hroot).symm.trans hfind
      rfl

end LogFile

/-- A module that is loaded is not loaded again. -/
theorem ends_loadModule_loaded {fs : FileSystem} {root : Path} {w : World} {l : Loaded}
    (hl : Assoc.get? "log" w.loaded = some l) :
    (loadModule fs root "log").ends w = (.ok l.index, w) := by
  have hload : (services fs [root] callLimit).load =
      loadStep fs [root] (services fs [root] (callLimit - 1)) := rfl
  rw [loadModule, if_neg (by decide), if_neg (by decide), hload, loadStep, ends_get_bind, hl]
  rfl

/-- A text with one class, which has a documentation. -/
def logText (doc : String) : String := "class Log:\n    '" ++ doc ++ "'\n"

/-- The statements of this text. -/
def isLogBody (doc : String) : List Stmt → Bool
  | [.classDef [] name [] [.expr (.constant (.text d))]] => name == "Log" && d == doc
  | _ => false

/-- Two directories with a file of one name; the class in each tells the name of the directory. -/
def namesakes : FileSystem :=
  ⟨.directory [("a", .directory [("log.py", .file (logText "a").toUTF8)]),
    ("b", .directory [("log.py", .file (logText "b").toUTF8)])], []⟩

/-- The file in one of them. -/
def namesake (directory : String) : SourceFile := ⟨Path.absolute [directory], ["log.py"]⟩

section Namesakes

variable {directory : String}

theorem directory_namesake (h : directory = "a" ∨ directory = "b") :
    (∀ n ∈ [directory], IsEntryName n) ∧ namesakes.root.at? [directory] =
      some (.directory [("log.py", .file (logText directory).toUTF8)]) := by
  rcases h with rfl | rfl <;> exact ⟨by decide, rfl⟩

theorem bytes_namesake (h : directory = "a" ∨ directory = "b") :
    namesakes.bytes? (namesake directory).path = some (logText directory).toUTF8 :=
  bytes_logFile (directory_namesake h).1 (directory_namesake h).2

theorem statements_namesake (h : directory = "a" ∨ directory = "b") :
    Module.statements? (logText directory).toUTF8 =
      some [.classDef [] "Log" [] [.expr (.constant (.text directory))]] := by
  have hbody :
      (Module.statements? (logText directory).toUTF8).any (isLogBody directory) = true := by
    rcases h with rfl | rfl <;> decide +kernel
  obtain ⟨body, hparse, hlog⟩ := (Option.any_eq_true _ _).1 hbody
  unfold isLogBody at hlog
  split at hlog
  · obtain ⟨hname, hdoc⟩ := Bool.and_eq_true_iff.1 hlog
    rw [hparse, eq_of_beq hname, eq_of_beq hdoc]
  · cases hlog

theorem declared_namesake (h : directory = "a" ∨ directory = "b") :
    ∃ source, (namesake directory).text namesakes = .ok source ∧
      Outline.declaredClassNameBy (Outline.classNames source) (namesake directory).name source =
        some "Log" := by
  have hdeclared : (String.fromUTF8? (logText directory).toUTF8).bind (fun s =>
      let source := String.ofList (Text.unifyLineBreaks s.toList)
      Outline.declaredClassNameBy (Outline.classNames source) "log.py" source) = some "Log" := by
    rcases h with rfl | rfl <;> decide +kernel
  obtain ⟨s, hs, hname⟩ := Option.bind_eq_some_iff.1 hdeclared
  rw [SourceFile.text, bytes_namesake h, Option.getD_some, hs]
  exact ⟨_, rfl, hname⟩

/-- Loading the module of one of the files makes its class. -/
theorem load_namesake (h : directory = "a" ∨ directory = "b") :
    ∃ w c, (loadModule namesakes (namesake directory).searchRoot "log").ends {} = (.ok 0, w) ∧
      w.loaded = [("log", ⟨0, some (namesake directory).path⟩)] ∧
      w.class? "log" "Log" = some c ∧ c.doc = some directory := by
  obtain ⟨hnames, hroot⟩ := directory_namesake h
  have hbytes := bytes_logFile hnames hroot
  rw [namesake, ends_loadModule_logFile hnames hroot rfl, makeModule_ends]
  dsimp only [Module.ofOrigin]
  unfold runModule
  rw [hbytes, Option.getD_some, statements_namesake h]
  exact ⟨_, _, rfl, rfl, rfl, rfl⟩

theorem moduleName_namesake (h : directory = "a" ∨ directory = "b") :
    (namesake directory).moduleName = "log" := by
  rcases h with rfl | rfl <;> rfl

/-- The report of one of the files, if the class is found in its module. -/
theorem report_namesake (tree : SourceTree) (h : directory = "a" ∨ directory = "b") {w w' : World}
    {c : Class}
    (hresolve : (namesake directory).resolveBy (World.host namesakes) "Log" w = (.ok c, w')) :
    ∃ r, FileReport.ofFileBy (World.host namesakes) namesakes tree (namesake directory) w =
      (r, w') ∧ r.file = namesake directory ∧ r.found = some ("log.Log", c) := by
  obtain ⟨source, htext, hdeclared⟩ := declared_namesake h
  have hname : (namesake directory).classNameIn "Log" = "log.Log" := by
    rw [SourceFile.classNameIn, moduleName_namesake h]
    decide
  have hclasses : (World.host namesakes).classNames = Outline.classNames := rfl
  simp only [FileReport.ofFileBy, htext, hclasses, hdeclared, hresolve, hname]
  exact ⟨_, rfl, rfl, rfl⟩

/-- The class of one of the files is found by loading its module, and is found again. -/
theorem resolve_namesake (h : directory = "a" ∨ directory = "b") :
    ∃ w c, (namesake directory).resolveBy (World.host namesakes) "Log" {} = (.ok c, w) ∧
      w.loaded = [("log", ⟨0, some (namesake directory).path⟩)] ∧
      w.class? "log" "Log" = some c ∧ c.doc = some directory ∧
      ((World.host namesakes).load (namesake directory).searchRoot "log" {}).2 = w := by
  obtain ⟨w, c, hload, hloaded, hclass, hdoc⟩ := load_namesake h
  have hhost : (World.host namesakes).load (namesake directory).searchRoot "log" {} =
      (.ok (), w) := (ends_discard _ _).trans (by rw [hload])
  have hempty : (World.host namesakes).class? {} "log" "Log" = none := rfl
  have hfound : (World.host namesakes).class? w "log" "Log" = some c := hclass
  refine ⟨w, c, ?_, hloaded, hclass, hdoc, by rw [hhost]⟩
  simp only [SourceFile.resolveBy, moduleName_namesake h, hempty, hhost, hfound]

/-- The search roots that the directories are. -/
def namesakeTree (directories : List String) : SourceTree where
  roots := directories.map fun d => Path.absolute [d]

theorem below_namesakes (h : directory = "a" ∨ directory = "b") :
    namesakes.isDirectory (Path.absolute [directory]) = true ∧
      Scan.filesBelow namesakes defaultFilePattern {} false (Path.absolute [directory]) =
        .ok [namesake directory] ∧
      SourceTree.realParts namesakes (namesake directory) = some [directory, "log.py"] := by
  have hposition : namesakes.directoryPosition? (Path.absolute [directory]) = some [directory] := by
    rcases h with rfl | rfl <;> exact FileSystem.directoryPosition?_absolute (by decide) rfl
  have hbytes : namesakes.bytes? ((Path.absolute [directory]).child Ignore.fileName) = none := by
    rcases h with rfl | rfl
    · exact @FileSystem.bytes?_absolute_missing _ ["a"] _ _ (by decide) rfl rfl
    · exact @FileSystem.bytes?_absolute_missing _ ["b"] _ _ (by decide) rfl rfl
  have hfiles : Scan.regularFiles namesakes (Path.absolute [directory]) = [["log.py"]] := by
    rcases h with rfl | rfl <;> exact (Scan.regularFiles_eq hposition rfl).trans rfl
  obtain ⟨regex, hregex, hname, -⟩ := Verification.pattern_sourcesTree
  exact ⟨by rw [FileSystem.isDirectory_eq, hposition]; rfl,
    @Scan.filesBelow_only namesakes _ _ ["log.py"] _ hregex hname hbytes hfiles ".expose",
    by rw [SourceTree.realParts, namesake, hposition]; rfl⟩

theorem files_namesakes :
    (namesakeTree ["a"]).files namesakes defaultFilePattern = .ok [namesake "a"] ∧
    (namesakeTree ["a", "b"]).files namesakes defaultFilePattern =
      .ok [namesake "a", namesake "b"] := by
  obtain ⟨hdirectory, hbelow, hplace⟩ := below_namesakes (.inl rfl)
  obtain ⟨hdirectory', hbelow', hplace'⟩ := below_namesakes (.inr rfl)
  constructor <;>
    simp [SourceTree.files, SourceTree.filesUnder_eq, namesakeTree, hdirectory, hdirectory', hbelow,
      hbelow', bind, Except.bind, pure, Except.pure, Except.map, SourceTree.keepNew, hplace,
      hplace']

/-- The modules while the file in one directory is read, and the class that this file declares. -/
def namesakeTable (directory : String) (w : World) : ModuleTable World where
  valid v := v = {} ∨ v = w
  file? := (World.table namesakes).file?
  finds := (World.table namesakes).finds
  declares file name c :=
    file = some (namesake directory).path ∧ (name = "Log" → c.doc = some directory)

theorem imports_namesakeTable (h : directory = "a" ∨ directory = "b") {w : World} {c : Class}
    (hload : ((World.host namesakes).load (namesake directory).searchRoot "log" {}).2 = w)
    (hloaded : w.loaded = [("log", ⟨0, some (namesake directory).path⟩)])
    (hclass : w.class? "log" "Log" = some c) (hdoc : c.doc = some directory) :
    (World.host namesakes).Imports (namesakeTable directory w) [namesake directory] := by
  have hl : Assoc.get? "log" w.loaded = some ⟨0, some (namesake directory).path⟩ := by
    rw [hloaded]
    rfl
  refine ⟨?_, ?_, fun hv => .refl hv⟩
  · intro v m name d hv hd
    obtain ⟨l, hm⟩ := World.loaded_of_class? hd
    cases hv with
    | inl hempty =>
        rw [hempty] at hm
        cases hm
    | inr hsame =>
        rw [hsame] at hm hd
        have hmem := Assoc.mem_of_get? hm
        rw [hloaded, List.mem_singleton, Prod.mk.injEq] at hmem
        obtain ⟨hname, hlast⟩ := hmem
        refine ⟨l.file, ?_, by rw [hlast], fun hlog => ?_⟩
        · rw [hsame]
          exact congrArg (Option.map Loaded.file) hm
        · have hd : w.class? m name = some d := hd
          rw [hname, hlog, hclass] at hd
          rwa [← Option.some.inj hd]
  · intro f v hf hv
    have hstep := (World.imports_host namesakes [namesake directory]).load hf (w := v) trivial
    cases List.mem_singleton.1 hf
    refine hstep.ofTable rfl rfl (.inr ?_)
    rw [moduleName_namesake h]
    cases hv with
    | inl hempty =>
        rw [hempty]
        exact hload
    | inr hsame =>
        have hagain : (World.host namesakes).load (namesake directory).searchRoot "log" w =
            (.ok (), w) := (ends_discard _ _).trans (by rw [ends_loadModule_loaded hl])
        rw [hsame, hagain]

end Namesakes

/-- The class that a file is resolved to is one that a file declares which was found under the name
of the module: from the search root of this file, or earlier, from the search root of a file before
it or from none. All files with one name of the module share it. So a class is declared by the very
file that it was resolved for if no other file can be found under the name. -/
theorem resolves_own {σ : Type} {h : Host σ} {t : ModuleTable σ} {fs : FileSystem}
    {tree : SourceTree} {files : List SourceFile} {first : σ} (himports : h.Imports t files)
    (hfirst : t.valid first) (hnew : ∀ f ∈ files, t.file? first f.moduleName = none) :
    ∀ r ∈ (FileReport.ofFilesBy h fs tree files first).1, ∀ key c, r.found = some (key, c) →
      ∃ pre post source name file, files = pre ++ r.file :: post ∧
        r.file.text fs = .ok source ∧
        Outline.declaredClassNameBy (h.classNames source) r.file.name source = some name ∧
        key = r.file.classNameIn name ∧ t.declares file name c ∧
        t.file? (FileReport.ofFilesBy h fs tree files first).2 r.file.moduleName = some file ∧
        (t.file? (FileReport.ofFilesBy h fs tree pre first).2 r.file.moduleName = none →
          t.finds (some r.file.searchRoot) r.file.moduleName file) ∧
        ((∀ p, ∀ origin ∈ SourceFile.origins (pre ++ [r.file]),
            t.finds origin r.file.moduleName p → p = some r.file.path) →
          file = some r.file.path) := by
  intro r hr key c hc
  obtain ⟨pre, f, post, rfl, rfl⟩ := FileReport.mem_ofFilesBy hr
  obtain ⟨hpre, hf, hpost⟩ : pre ⊆ pre ++ f :: post ∧ f ∈ pre ++ f :: post ∧
      post ⊆ pre ++ f :: post := by simp
  have hbefore := @FileReport.step_ofFilesBy _ _ fs tree _ _ himports pre hpre _ hfirst
  obtain ⟨hstep, hfile, hfound⟩ :=
    @FileReport.step_ofFileBy _ _ fs tree _ _ himports f hf _ hbefore.valid
  have hafter := @FileReport.step_ofFilesBy _ _ fs tree _ _ himports post hpost _ hstep.valid
  obtain ⟨source, name, file, htext, hname, hkey, hdeclares, hmodule, hown⟩ := hfound key c hc
  rw [hfile]
  refine ⟨pre, post, source, name, file, rfl, htext, hname, hkey, hdeclares, ?_, hown,
    fun hsole => ?_⟩
  · rw [FileReport.ofFilesBy_append]
    exact hafter.keeps hmodule
  · have hpre : pre ⊆ pre ++ [f] := List.subset_append_left _ _
    have hlast : [f] ⊆ pre ++ [f] := List.subset_append_right _ _
    obtain ⟨origin, horigin, hfinds⟩ :=
      ((hbefore.mono (SourceFile.origins_subset hpre)).trans
        (hstep.mono (SourceFile.origins_subset hlast))).found (hnew f hf) hmodule
    exact hsole file origin horigin hfinds

theorem resolves_own_alone :
    ∃ w, (World.host namesakes).Imports (namesakeTable "a" w) [namesake "a"] ∧
      ∃ r ∈ (FileReport.ofFilesBy (World.host namesakes) namesakes (namesakeTree ["a"])
        [namesake "a"] {}).1, ∃ c, r.found = some ("log.Log", c) ∧
          (namesakeTable "a" w).declares (some (namesake "a").path) "Log" c ∧
          c.doc = some "a" := by
  obtain ⟨w, c, hresolve, hloaded, hclass, hdoc, hload⟩ := @resolve_namesake "a" (.inl rfl)
  have himports := imports_namesakeTable (.inl rfl) hload hloaded hclass hdoc
  obtain ⟨r, hr, hfile, hfound⟩ := report_namesake (namesakeTree ["a"]) (.inl rfl) hresolve
  have hmem : r ∈ (FileReport.ofFilesBy (World.host namesakes) namesakes (namesakeTree ["a"])
      [namesake "a"] {}).1 := by
    simp only [FileReport.ofFilesBy, hr, List.mem_singleton]
  have hmodule := @moduleName_namesake "a" (.inl rfl)
  have hempty : ∀ f ∈ [namesake "a"], (namesakeTable "a" w).file? {} f.moduleName = none :=
    fun _ _ => rfl
  obtain ⟨pre, post, source, name, file, hfiles, htext, hname, -, hdeclares, -, -, hown⟩ :=
    resolves_own himports (.inl rfl) hempty r hmem _ c hfound
  have hpre : pre = [] := by
    cases pre with
    | nil => rfl
    | cons g pre => simp at hfiles
  have hsole : file = some (namesake "a").path := by
    rw [← hfile]
    refine hown fun p origin horigin hfinds => ?_
    rw [hfile, hmodule] at hfinds
    rw [hpre, List.nil_append, hfile] at horigin
    rw [hfile]
    exact path_of_foundAs (directory_namesake (.inl rfl)).1 (directory_namesake (.inl rfl)).2
      (by simpa [SourceFile.origins, namesake] using horigin) hfinds
  obtain ⟨source', htext', hname'⟩ := @declared_namesake "a" (.inl rfl)
  rw [hfile] at htext hname
  cases htext.symm.trans htext'
  cases hname.symm.trans hname'
  rw [hsole] at hdeclares
  exact ⟨w, himports, r, hmem, c, hfound, hdeclares, hdeclares.2 rfl⟩

/-- A file may get the class of another one: both files are found under one name, and the class of
the first stays in the table. Alone, the second gets its own. -/
theorem class_of_namesake :
    (namesakeTree ["a", "b"]).files namesakes defaultFilePattern =
        .ok [namesake "a", namesake "b"] ∧
    (∃ c, (FileReport.ofFiles namesakes (namesakeTree ["a", "b"])
        [namesake "a", namesake "b"] {}).map FileReport.found =
      [some ("log.Log", c), some ("log.Log", c)] ∧ c.doc = some "a") ∧
    ∃ c, (FileReport.ofFiles namesakes (namesakeTree ["b"]) [namesake "b"] {}).map
        FileReport.found = [some ("log.Log", c)] ∧ c.doc = some "b" := by
  refine ⟨files_namesakes.2, ?_, ?_⟩
  · obtain ⟨w, c, hresolve, -, hclass, hdoc, -⟩ := resolve_namesake (.inl rfl)
    have hagain : (namesake "b").resolveBy (World.host namesakes) "Log" w = (.ok c, w) := by
      have hfound : (World.host namesakes).class? w "log" "Log" = some c := hclass
      simp only [SourceFile.resolveBy, moduleName_namesake (.inr rfl), hfound]
    obtain ⟨r, hr, -, hfound⟩ := report_namesake (namesakeTree ["a", "b"]) (.inl rfl) hresolve
    obtain ⟨r', hr', -, hfound'⟩ := report_namesake (namesakeTree ["a", "b"]) (.inr rfl) hagain
    refine ⟨c, ?_, hdoc⟩
    simp only [FileReport.ofFiles, FileReport.ofFilesBy, hr, hr', List.map_cons, hfound, hfound',
      List.map_nil]
  · obtain ⟨w, c, hresolve, -, -, hdoc, -⟩ := resolve_namesake (.inr rfl)
    obtain ⟨r, hr, -, hfound⟩ := report_namesake (namesakeTree ["b"]) (.inr rfl) hresolve
    refine ⟨c, ?_, hdoc⟩
    simp only [FileReport.ofFiles, FileReport.ofFilesBy, hr, List.map_cons, hfound, List.map_nil]

end Discovery
end Exposure
