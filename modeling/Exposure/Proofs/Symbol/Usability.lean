import Exposure.Proofs.Artifact.Loading
import Exposure.Proofs.Symbol.Navigation

/-!
What the validator accepts can be queried without a dangling reference, whatever was asked for
before: every name that a search gives has its symbol, every method symbol that of its class, and
every class symbol one for each method that it lists.
-/
namespace Exposure.SymbolCache

variable {i : Index} {c : SymbolCache} {name : String}

/-- Looking the name up gives a class symbol of this name. -/
def FindsClass (c : SymbolCache) (name : String) : Prop :=
  ∃ k s, (c.exposedClass name).1 = some k ∧ (c.exposedClass name).2.classSymbol? k = some s ∧
    s.name = name

/-- Looking the name up gives a method symbol of this name. Its parent is the very symbol that
looking up the class part of the name gives. -/
def FindsMethod (c : SymbolCache) (name : String) : Prop :=
  ∃ k s p q, (c.exposedMethod name).1 = some k ∧
    (c.exposedMethod name).2.methodSymbol? k = some s ∧ s.record.qualifiedName = name ∧
    s.parent = some p ∧
    (c.exposedMethod name).2.exposedClass (splitMethodName name).1 =
      (some p, (c.exposedMethod name).2) ∧
    (c.exposedMethod name).2.classSymbol? p = some q ∧ q.name = (splitMethodName name).1

/-- A class symbol has one method symbol for each name that its record lists, in their order. -/
def HasListedMethods (c : SymbolCache) (name : String) (s : ClassSymbol) : Prop :=
  List.Forall₂ (fun n m => c.exposedMethod (joinMethodName name n) = (some m, c) ∧
    ∃ t, c.methodSymbol? m = some t ∧ t.record.qualifiedName = joinMethodName name n)
    s.record.methodNames s.exposedMethods

theorem findsClass (h : Sound i [] [] c) (hf : Artifact.Filed i)
    (hname : i.classes.contains name = true) : FindsClass c name := by
  obtain ⟨hsound, -, hsettled, hnumber⟩ := exposedClass_spec h name
  have hsome := isSome_numberAt hsound.loaded.classes hsettled
  rw [hname] at hsome
  obtain ⟨k, hk⟩ := Option.isSome_iff_exists.1 hsome
  obtain ⟨s, hs, hr⟩ := hsound.loaded.classSymbol hk
  exact ⟨k, s, hnumber.trans hk, hs, hf.classes name s.record hr⟩

theorem findsMethod (h : Sound i [] [] c) (hi : i.Consistent) (hf : Artifact.Filed i)
    (hname : i.methods.contains name = true) : FindsMethod c name := by
  obtain ⟨hsound, -, hsettled, hnumber⟩ := exposedMethod_spec h name
  have hsome := isSome_numberAt hsound.loaded.methods hsettled
  rw [hname] at hsome
  obtain ⟨k, hk⟩ := Option.isSome_iff_exists.1 hsome
  obtain ⟨s, hs, hr, hparent, howner, -⟩ := hsound.methodParent hk
  have hfiled : s.record.qualifiedName = name := hf.methods name s.record hr
  have hclass : s.record.className = (splitMethodName name).1 := by
    rw [MethodRecord.className, hfiled]
  rw [(hi.owned name s.record hr).2] at howner
  obtain ⟨p, hp⟩ := Option.isSome_iff_exists.1 howner
  rw [hp, hclass] at hparent
  obtain ⟨q, hq, hqr⟩ := hsound.loaded.classSymbol hparent.symm
  exact ⟨k, s, p, q, hnumber.trans hk, hs, hfiled, hp, exposedClass_of_numberAt hparent.symm, hq,
    hf.classes _ q.record hqr⟩

theorem hasListedMethods (h : Sound i [] [] c) (hi : i.Consistent) (hf : Artifact.Filed i)
    {k : Nat} (hk : numberAt c.classes name = some k) :
    ∃ s, c.classSymbol? k = some s ∧ s.name = name ∧ HasListedMethods c name s := by
  obtain ⟨s, hs, hr, hmethods⟩ := h.classMethods hk
  refine ⟨s, hs, hf.classes name s.record hr, ?_⟩
  -- Every listed method has a record, so that the filter drops none.
  have hall : i.recordedMethods name s.record =
      s.record.methodNames.map (joinMethodName name) := by
    refine List.filter_eq_self.2 fun m hm => ?_
    obtain ⟨n, hn, rfl⟩ := List.mem_map.1 hm
    exact hi.listed name s.record hr n hn
  have hnumbers : List.Forall₂ (fun n m => numberAt c.methods (joinMethodName name n) = some m)
      s.record.methodNames s.exposedMethods := by
    rw [hall, List.map_map, ← List.forall₂_eq_eq_eq, List.forall₂_map_left_iff,
      List.forall₂_map_right_iff] at hmethods
    exact hmethods.flip.imp fun _ _ heq => heq.symm
  refine hnumbers.imp fun n m hm => ⟨exposedMethod_of_numberAt hm, ?_⟩
  obtain ⟨t, ht, htr⟩ := h.loaded.methodSymbol hm
  exact ⟨t, ht, hf.methods _ t.record htr⟩

/-- No name that the cache gives leads nowhere. -/
structure NothingDangles (c : SymbolCache) : Prop where
  classes : ∀ pattern ancestors, ∃ hits, c.classPurposes.search pattern ancestors = .ok hits ∧
    ∀ hit ∈ hits, ∃ name, hit.2 = .string name ∧ FindsClass c name
  methods : ∀ pattern ancestors, ∃ hits, c.methodPurposes.search pattern ancestors = .ok hits ∧
    ∀ hit ∈ hits, ∃ name, hit.2 = .string name ∧ FindsMethod c name
  listed : ∀ name k, c.classes.get? name = some (.symbol k) →
    ∃ s, c.classSymbol? k = some s ∧ s.name = name ∧ HasListedMethods c name s

theorem nothingDangles (h : Sound i [] [] c) (hi : i.Consistent) (hf : Artifact.Filed i) :
    NothingDangles c := by
  refine ⟨fun pattern ancestors => ?_, fun pattern ancestors => ?_, fun name k hslot => ?_⟩
  · rw [h.loaded.classPurposes]
    obtain ⟨hits, hsearch, hentries⟩ :=
      PurposeTree.entry_of_search hi.classTree pattern ancestors
    refine ⟨hits, hsearch, fun hit hhit => ?_⟩
    obtain ⟨name, hname, hknown⟩ := hentries hit hhit
    exact ⟨name, hname, findsClass h hf hknown⟩
  · rw [h.loaded.methodPurposes]
    obtain ⟨hits, hsearch, hentries⟩ :=
      PurposeTree.entry_of_search hi.methodTree pattern ancestors
    refine ⟨hits, hsearch, fun hit hhit => ?_⟩
    obtain ⟨name, hname, hknown⟩ := hentries hit hhit
    exact ⟨name, hname, findsMethod h hi hf hknown⟩
  · exact hasListedMethods h hi hf (numberAt_eq_some_iff.2 hslot)

/-- A validated artifact loads, and after any calls nothing dangles. -/
theorem nothingDangles_of_validate {fs : FileSystem} {text : String}
    {result : Artifact.ValidationResult}
    (h : Artifact.validate fs (Path.ofString text) = .ok result) (hok : result.ok = true) :
    ∃ i, Artifact.load fs (.path text) = .ok i ∧ ∀ calls, NothingDangles (after i calls) := by
  obtain ⟨i, hload, hi, hf⟩ := Artifact.load_of_validate h hok
  exact ⟨i, hload, fun calls => nothingDangles (sound_after i calls) hi hf⟩

namespace Logging

/-- An artifact with a class and a method of it, each under a purpose. -/
def text : String :=
  "\x7b\"purposes\":\x7b\"LOG\":\x7b\"#\":[\"Log\"]\x7d\x7d," ++
  "\"method_purposes\":\x7b\"LOG\":\x7b\"ADD\":\x7b\"#\":[\"Log::add\"]\x7d\x7d\x7d," ++
  "\"classes\":\x7b\"Log\":\x7b\"methodNames\":[\"add\"]\x7d\x7d," ++
  "\"methods\":\x7b\"Log::add\":\x7b\x7d\x7d\x7d"

def classTree : List (String × Json) :=
  [("LOG", .object [(bucketKey, .array [.string "Log"])])]

def methodTree : List (String × Json) :=
  [("LOG", .object [("ADD", .object [(bucketKey, .array [.string "Log::add"])])])]

def members : List (String × Json) := [
  ("purposes", .object classTree), ("method_purposes", .object methodTree),
  ("classes", .object [("Log", .object [("methodNames", .strings ["add"])])]),
  ("methods", .object [("Log::add", .object [])])]

def index : Index where
  classPurposes := ⟨classTree⟩
  methodPurposes := ⟨methodTree⟩
  classes := Table.empty.insert "Log" { qualifiedName := "Log", methodNames := ["add"] }
  methods := Table.empty.insert "Log::add" { qualifiedName := "Log::add" }

/-- The artifact stands in the root directory. -/
def files : FileSystem := ⟨.directory [(Artifact.fileName, .file text.toUTF8)], []⟩

theorem ofText?_text : Json.ofText? .word text = some (.object members) := by cbv

theorem consistent_index : index.Consistent := by
  have hlog : Artifact.IsToken "LOG" := ⟨by decide +kernel, by decide⟩
  have hadd : Artifact.IsToken "ADD" := ⟨by decide +kernel, by decide⟩
  have hbucket {known : String → Bool} {name : String} (h : known name = true) :
      PurposeTree.HasBucket (Artifact.IsKnown known) [(bucketKey, .array [.string name])] := by
    intro v hv
    cases hv
    refine ⟨_, rfl, fun e he => ?_⟩
    exact ⟨name, List.mem_singleton.1 he, h⟩
  refine ⟨Artifact.unrecordedMethods_eq_nil_iff.1 rfl,
    Artifact.misplacedMethods_eq_nil_iff.1 (by decide), rfl, rfl, ?_, ?_⟩
  · exact .node (by decide) hlog (hbucket (by decide)) (.bucket .nil) .nil
  · refine .node (by decide) hlog ?_ ?_ .nil
    · intro v hv
      cases hv
    · exact .node (by decide) hadd (hbucket (by decide)) (.bucket .nil) .nil

theorem validate_files : Artifact.validate files (Path.ofString "/") = .ok {} := by
  have hremarks : Artifact.memberRemarks members = .ok {} :=
    Artifact.memberRemarks_eq_iff.2
      ⟨by decide, index, ⟨rfl, rfl, rfl, rfl, rfl, rfl⟩, consistent_index⟩
  rw [show files = Artifact.holding text from rfl, Artifact.validate_holding, ofText?_text,
    Artifact.documentRemarks, hremarks]
  rfl

end Logging

theorem nothingDangles_of_validate_logging :
    Artifact.validate Logging.files (Path.ofString "/") = .ok {} ∧
    ∃ i, Artifact.load Logging.files (.path "/") = .ok i ∧
      ∀ calls, NothingDangles (after i calls) :=
  ⟨Logging.validate_files, nothingDangles_of_validate Logging.validate_files rfl⟩

end Exposure.SymbolCache
