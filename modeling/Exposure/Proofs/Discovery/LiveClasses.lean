import Exposure.Discovery.Context
import Exposure.Proofs.Discovery.Isolation
import Exposure.Proofs.Discovery.Resolution

/-!
Which class is at hand under a name, in whatever program a discovery runs. A class is kept under the
name that its file gives it, and its record is filed under the name that it has itself. So an
exposed class is at hand under its name if its file gives it this name, and need not be if the name
in the file has come to stand for another class.
-/
namespace Exposure

open Eval Source

/-- The record of a class has the name that the class has itself. -/
theorem Reflection.qualifiedName_ofClass {run : Run} {registry : Class.Registry} {c : Class}
    {source : String} {moduleName : Option String} {refl : Reflection}
    (h : ofClass run registry c source moduleName = .ok (some refl)) :
    refl.record.qualifiedName = c.qualifiedName := by
  unfold ofClass at h
  split at h
  · split at h
    · rename_i r hr
      cases h
      obtain ⟨methods, -, hr⟩ := bind_eq_ok.1 hr
      obtain ⟨given, -, hr⟩ := bind_eq_ok.1 hr
      obtain ⟨purposes, -, hr⟩ := bind_eq_ok.1 hr
      cases hr
      rfl
    · cases h
  · cases h

namespace FileReport

theorem reflect_eq_exposed {run : Run} {registered : Class.Registry} {c : Class}
    {name source : String} {moduleName : Option String} {refl : Reflection}
    (h : reflect run registered c name source moduleName = .ok (.exposed refl)) :
    Reflection.ofClass run registered c source moduleName = .ok (some refl) := by
  unfold reflect at h
  split at h
  · cases h
  · cases h
  · rename_i hrefl
    cases h
    exact hrefl

/-- The class was found for the file, under the name that the file gives it, and reflecting it gave
the record. -/
def Records {σ : Type} (h : Host σ) (fs : FileSystem) (tree : SourceTree) (r : FileReport)
    (name : String) (c : Class) (record : ClassRecord) : Prop :=
  r.found = some (name, c) ∧ ∃ refl, r.outcome = .ok (.exposed refl) ∧ refl.record = record ∧
    ∃ w source, r.file.text fs = .ok source ∧
      Reflection.ofClass (h.run w) (h.registered w) c source (tree.moduleOf r.file) =
        .ok (some refl)

variable {σ : Type} {h : Host σ} {fs : FileSystem} {tree : SourceTree}

theorem Records.qualifiedName {r : FileReport} {name : String} {c : Class} {record : ClassRecord}
    (hr : r.Records h fs tree name c record) : record.qualifiedName = c.qualifiedName := by
  obtain ⟨-, refl, -, rfl, w, source, -, hrefl⟩ := hr
  exact Reflection.qualifiedName_ofClass hrefl

theorem records_ofFileBy {f : SourceFile} {w : σ} {refl : Reflection}
    (hexposed : (ofFileBy h fs tree f w).1.outcome = .ok (.exposed refl)) :
    ∃ name c, (ofFileBy h fs tree f w).1.Records h fs tree name c refl.record := by
  unfold ofFileBy at hexposed ⊢
  split at hexposed
  · cases hexposed
  · rename_i source htext
    split at hexposed
    · cases hexposed
    · split at hexposed
      · cases hexposed
      · rename_i c v _
        exact ⟨_, c, rfl, refl, hexposed, rfl, v, source, htext, reflect_eq_exposed hexposed⟩

/-- The class was found under the name, and for no later file was another one. -/
def LastFound (reports : List FileReport) (name : String) (c : Class) : Prop :=
  ∃ pre r post, reports = pre ++ r :: post ∧ r.found = some (name, c) ∧
    ∀ s ∈ post, ∀ d, s.found ≠ some (name, d)

theorem lastFound_concat {reports : List FileReport} {r : FileReport} {name : String} {c : Class} :
    LastFound (reports ++ [r]) name c ↔
      r.found = some (name, c) ∨ (∀ d, r.found ≠ some (name, d)) ∧ LastFound reports name c := by
  constructor
  · intro hlast
    obtain ⟨pre, s, post, heq, hs, hpost⟩ := hlast
    cases List.eq_nil_or_concat post with
    | inl hnil =>
        rw [hnil, List.append_inj_left' heq rfl] at heq
        cases List.append_cancel_left heq
        exact .inl hs
    | inr hconcat =>
        obtain ⟨post, t, rfl⟩ := hconcat
        rw [List.concat_eq_append, ← List.cons_append, ← List.append_assoc] at heq
        obtain ⟨rfl, hr⟩ := List.append_inj' heq rfl
        cases hr
        exact .inr ⟨hpost r (by simp), pre, s, post, rfl, hs,
          fun s hs => hpost s (by simp [hs])⟩
  · intro hlast
    cases hlast with
    | inl hr => exact ⟨reports, r, [], rfl, hr, nofun⟩
    | inr hlast =>
        obtain ⟨hr, pre, s, post, rfl, hs, hpost⟩ := hlast
        refine ⟨pre, s, post ++ [r], by simp, hs, fun t ht => ?_⟩
        cases List.mem_append.1 ht with
        | inl ht => exact hpost t ht
        | inr ht =>
            rw [List.mem_singleton.1 ht]
            exact hr

theorem LastFound.mem {reports : List FileReport} {name : String} {c : Class}
    (hlast : LastFound reports name c) : ∃ r ∈ reports, r.found = some (name, c) := by
  obtain ⟨pre, r, post, rfl, hr, -⟩ := hlast
  exact ⟨r, by simp, hr⟩

theorem exists_lastFound {reports : List FileReport} {r : FileReport} (hr : r ∈ reports)
    {name : String} {c : Class} (hc : r.found = some (name, c)) :
    ∃ d, LastFound reports name d := by
  induction reports using List.reverseRecOn with
  | nil => cases hr
  | append_singleton reports s ih =>
      by_cases hs : ∃ d, s.found = some (name, d)
      · obtain ⟨d, hs⟩ := hs
        exact ⟨d, lastFound_concat.2 (.inl hs)⟩
      · rw [not_exists] at hs
        cases List.mem_append.1 hr with
        | inl hr =>
            obtain ⟨d, hd⟩ := ih hr
            exact ⟨d, lastFound_concat.2 (.inr ⟨hs, hd⟩)⟩
        | inr hr =>
            rw [List.mem_singleton.1 hr] at hc
            exact absurd hc (hs c)

end FileReport

namespace Index

theorem Call.mem_of_mem_started {c : Call} {calls : List Call} (h : c ∈ started calls) :
    c ∈ calls := by
  induction calls with
  | nil => cases h
  | cons d calls ih =>
      rw [started] at h
      split at h
      · exact List.mem_cons.2 (.inl (List.mem_singleton.1 h))
      · exact List.mem_cons.2 ((List.mem_cons.1 h).imp_right ih)

/-- Each class record in an index was there or has been added by a call, under its own name. -/
theorem record_afterCalls {i : Index} {calls : List Call} {name : String} {record : ClassRecord}
    (h : (afterCalls calls i).classes.get? name = some record) :
    i.classes.get? name = some record ∨
      record.qualifiedName = name ∧ ∃ tags, Call.addClass record tags ∈ calls := by
  induction calls generalizing i with
  | nil => exact .inl h
  | cons c calls ih =>
      rcases ih h with h | ⟨hname, tags, hmem⟩
      · cases c with
        | addClass r tags =>
            rw [Call.apply, addClass_index] at h
            refine get?_insert_if (P := fun n s => i.classes.get? n = some s ∨
              s.qualifiedName = n ∧ ∃ ts, Call.addClass s ts ∈ Call.addClass r tags :: calls)
              (fun _ _ => .inl) (.inr ⟨rfl, tags, List.mem_cons_self⟩) _ _ _ h
        | addMethod r tags =>
            rw [Call.apply, addMethod_index] at h
            exact .inl h
      · exact .inr ⟨hname, tags, List.mem_cons_of_mem _ hmem⟩

end Index

namespace Discovery

theorem class?_keep {d : Discovery} {found : Option (String × Class)} {name : String} {c : Class} :
    (d.keep found).class? name = some c ↔
      found = some (name, c) ∨ (∀ e, found ≠ some (name, e)) ∧ d.class? name = some c := by
  cases found with
  | none => simp [keep]
  | some p =>
      obtain ⟨n, e⟩ := p
      rw [class?, keep, Assoc.get?_put]
      by_cases hname : n = name
      · simp [hname]
      · simp [hname, class?]

theorem class?_merge (d : Discovery) (r : FileReport) (name : String) :
    (d.merge r).1.class? name = (d.keep r.found).class? name := by
  unfold merge
  dsimp only
  split
  · rfl
  · rfl
  · rfl
  · split <;> rfl

theorem mergeAll_concat (d : Discovery) (reports : List FileReport) (r : FileReport) :
    (d.mergeAll (reports ++ [r])).1 = ((d.mergeAll reports).1.merge r).1 := by
  induction reports generalizing d with
  | nil => rfl
  | cons s reports ih => exact ih _

/-- Of the classes that were found under a name the last is kept. -/
theorem class?_mergeAll {reports : List FileReport} {name : String} {c : Class} :
    (mergeAll {} reports).1.class? name = some c ↔ FileReport.LastFound reports name c := by
  induction reports using List.reverseRecOn with
  | nil => simp [mergeAll, class?, FileReport.LastFound]
  | append_singleton reports r ih =>
      rw [mergeAll_concat, class?_merge, class?_keep, FileReport.lastFound_concat, ih]

theorem mem_classNames {reports : List FileReport} {r : FileReport} (hr : r ∈ reports)
    {name : String} {c : Class} (hc : r.found = some (name, c)) :
    name ∈ (mergeAll {} reports).1.classNames := by
  obtain ⟨e, he⟩ := FileReport.exists_lastFound hr hc
  exact Assoc.mem_keys_iff_get?.2 ⟨e, class?_mergeAll.2 he⟩

/-- Each class record comes from the reflection of a file's class, and has the name under which it
is filed. -/
theorem record_mergeAll {reports : List FileReport} {name : String} {record : ClassRecord}
    (h : (mergeAll {} reports).1.index.classes.get? name = some record) :
    record.qualifiedName = name ∧
      ∃ r ∈ reports, ∃ refl, r.outcome = .ok (.exposed refl) ∧ refl.record = record := by
  rw [(mergeAll_eq Index.grown_empty reports).1] at h
  rcases Index.record_afterCalls h with h | ⟨hname, tags, hcall⟩
  · cases h
  · obtain ⟨r, hr, hcall⟩ := List.mem_flatMap.1 hcall
    refine ⟨hname, r, hr, ?_⟩
    unfold FileReport.calls at hcall
    split at hcall
    · rename_i refl houtcome
      refine ⟨refl, houtcome, ?_⟩
      rcases List.mem_cons.1 (Index.Call.mem_of_mem_started hcall) with heq | hmethod
      · cases heq
        rfl
      · obtain ⟨m, -, hm⟩ := List.mem_map.1 hmethod
        cases hm
    · cases hcall

theorem record_ofFilesBy {σ : Type} {h : Host σ} {fs : FileSystem} {tree : SourceTree}
    {files : List SourceFile} {first : σ} {name : String} {record : ClassRecord}
    (hrecord : (mergeAll {} (FileReport.ofFilesBy h fs tree files first).1).1.index.classes.get?
      name = some record) :
    ∃ r ∈ (FileReport.ofFilesBy h fs tree files first).1, ∃ own c,
      r.Records h fs tree own c record ∧ c.qualifiedName = name ∧
        own ∈ (mergeAll {} (FileReport.ofFilesBy h fs tree files first).1).1.classNames := by
  obtain ⟨hname, r, hr, refl, houtcome, rfl⟩ := record_mergeAll hrecord
  obtain ⟨pre, f, post, -, rfl⟩ := FileReport.mem_ofFilesBy hr
  obtain ⟨own, c, hrecords⟩ := FileReport.records_ofFileBy houtcome
  exact ⟨_, hr, own, c, hrecords, hrecords.qualifiedName.symm.trans hname,
    mem_classNames hr hrecords.1⟩

/-- The class that is at hand under a name is the last that was found under it. Each record of a
class comes from the reflection of one that was found, under the name that its file gives it. So
every exposed class is at hand under its own name, with its methods, if the files give their exposed
classes the names that these have themselves; and it is the class whose reflection gave the record
if no other class was found under the name. -/
theorem live_ofFiles {σ : Type} (h : Host σ) (fs : FileSystem) (tree : SourceTree)
    (files : List SourceFile) (first : σ) :
    let reports := (FileReport.ofFilesBy h fs tree files first).1
    let d := (mergeAll {} reports).1
    (∀ name c, d.class? name = some c ↔ FileReport.LastFound reports name c) ∧
    (∀ name record, d.index.classes.get? name = some record →
      ∃ r ∈ reports, ∃ own c, r.Records h fs tree own c record ∧ c.qualifiedName = name ∧
        own ∈ d.classNames) ∧
    ((∀ r ∈ reports, ∀ own c record, r.Records h fs tree own c record → c.qualifiedName = own) →
      ∀ name ∈ d.exposedClassNames, ∃ c, d.class? name = some c ∧
        (∀ options excludeMagic, d.findMethods name options excludeMagic =
          some (methodsOf c name (methodOptions options excludeMagic))) ∧
        ∃ record, d.index.classes.get? name = some record ∧
          ∃ r ∈ reports, ∃ recorded, r.Records h fs tree name recorded record ∧
            ((∀ s ∈ reports, ∀ other, s.found = some (name, other) → other = recorded) →
              c = recorded)) := by
  intro reports d
  refine ⟨fun _ _ => class?_mergeAll, fun _ _ => record_ofFilesBy, fun hown name hname => ?_⟩
  obtain ⟨record, hrecord⟩ := Table.mem_keys_iff.1 hname
  obtain ⟨r, hr, own, recorded, hrecords, hrecordedName, hmem⟩ := record_ofFilesBy hrecord
  obtain rfl : own = name := (hown r hr own recorded record hrecords).symm.trans hrecordedName
  obtain ⟨c, hc⟩ : ∃ c, d.class? own = some c := Assoc.mem_keys_iff_get?.1 hmem
  refine ⟨c, hc, fun options excludeMagic => ?_, record, hrecord, r, hr, recorded, hrecords,
    fun honly => ?_⟩
  · rw [findMethods, hc, Option.map_some]
  · obtain ⟨s, hs, hfound⟩ := (class?_mergeAll.1 hc).mem
    exact honly s hs c hfound

/-- A text that declares an exposed class and goes on after it. -/
def exposedText (name rest : String) : String :=
  "class " ++ name ++ "(ExposeClass):\n    def get_purposes():\n        return []\n" ++ rest

/-- A class, and its name bound to another one. -/
def rebinding : String := "class Log:\n    pass\nLog = Fast\n"

def loneFile (text : String) : FileSystem := ⟨.directory [("log.py", .file text.toUTF8)], []⟩

def rootTree : SourceTree where
  roots := [Path.absolute []]

/-- A world in which the marker has a name everywhere. -/
def markerWorld : World where
  builtins := [("ExposeClass", .type .exposed)]

/-- What a file with this text comes to. -/
def loneReports (text : String) : List FileReport :=
  FileReport.ofFiles (loneFile text) rootTree [logFile []] markerWorld

theorem loneReports_exposedText {name rest : String}
    (h : (name, rest) = ("Log", "") ∨ (name, rest) = ("Fast", rebinding)) :
    (∀ r ∈ loneReports (exposedText name rest),
        r.found.map (fun p => (p.1, p.2.qualifiedName)) = some ("log.Log", "log." ++ name)) ∧
      (mergeAll {} (loneReports (exposedText name rest))).1.exposedClassNames = ["log." ++ name] ∧
      (mergeAll {} (loneReports (exposedText name rest))).1.classNames = ["log.Log"] := by
  have hbytes (text : String) : (loneFile text).bytes? (logFile []).path = some text.toUTF8 :=
    bytes_logFile (by decide) rfl
  have hload (text : String) := ends_discard
    (loadModule (loneFile text) (logFile []).searchRoot (logFile []).moduleName) markerWorld
  have hhost (text : String) : (World.host (loneFile text)).load (logFile []).searchRoot
      (logFile []).moduleName markerWorld = _ := hload text
  have hrun (text : String) : (loadModule (loneFile text) (logFile []).searchRoot
      (logFile []).moduleName).ends markerWorld = _ :=
    (ends_loadModule_logFile (by decide) rfl rfl).trans (makeModule_ends _ _ _ _ _)
  -- With the file read, nothing is asked of the file system any more.
  simp only [loneReports, FileReport.ofFiles, FileReport.ofFilesBy, FileReport.ofFileBy,
    SourceFile.text, SourceFile.resolveBy]
  rw [hbytes, hhost, hrun]
  dsimp only [Module.ofOrigin]
  unfold runModule
  rw [hbytes, Option.getD_some]
  rcases h with h | h <;> cases h
  · decide +kernel
  · decide +kernel

theorem live_ofFiles_exposedText :
    let fs := loneFile (exposedText "Log" "")
    let reports := (FileReport.ofFilesBy (World.host fs) fs rootTree [logFile []] markerWorld).1
    let d := (mergeAll {} reports).1
    (∀ r ∈ reports, ∀ own c record, r.Records (World.host fs) fs rootTree own c record →
      c.qualifiedName = own) ∧
    d.exposedClassNames = ["log.Log"] ∧
    ∃ c record, d.class? "log.Log" = some c ∧ d.index.classes.get? "log.Log" = some record ∧
      (∃ r ∈ reports, r.Records (World.host fs) fs rootTree "log.Log" c record) ∧
      ∀ options excludeMagic, d.findMethods "log.Log" options excludeMagic =
        some (methodsOf c "log.Log" (methodOptions options excludeMagic)) := by
  intro fs reports d
  obtain ⟨hfound, hexposed, -⟩ := loneReports_exposedText (.inl rfl)
  have hown : ∀ r ∈ reports, ∀ own c record, r.Records (World.host fs) fs rootTree own c record →
      c.qualifiedName = own := by
    rintro r hr own c record ⟨hc, -⟩
    have hnames := hfound r hr
    rw [hc, Option.map_some, Option.some.injEq, Prod.mk.injEq] at hnames
    exact hnames.2.trans hnames.1.symm
  obtain ⟨-, -, hlive⟩ := live_ofFiles (World.host fs) fs rootTree [logFile []] markerWorld
  obtain ⟨c, hc, hmethods, record, hrecord, r, hr, recorded, hrecords, honly⟩ :=
    hlive hown "log.Log" (hexposed ▸ List.mem_singleton_self _)
  have hsame : c = recorded := by
    refine honly fun s hs other hother => ?_
    cases (List.mem_singleton.1 hs).trans (List.mem_singleton.1 hr).symm
    cases hother.symm.trans hrecords.1
    rfl
  exact ⟨hown, hexposed, c, record, hc, hrecord, ⟨r, hr, hsame ▸ hrecords⟩, hmethods⟩

/-- If a file binds the name of its class to another exposed class, this class has a record, and is
not at hand under its name. -/
theorem record_without_class :
    let d := (mergeAll {} (loneReports (exposedText "Fast" rebinding))).1
    d.exposedClassNames = ["log.Fast"] ∧ d.classNames = ["log.Log"] ∧
      ∀ options excludeMagic, d.findMethods "log.Fast" options excludeMagic = none := by
  intro d
  obtain ⟨-, hexposed, hnames⟩ := loneReports_exposedText (.inr rfl)
  refine ⟨hexposed, hnames, fun options excludeMagic => ?_⟩
  have hclass : d.class? "log.Fast" = none := by
    refine Assoc.get?_eq_none ?_
    rw [show Assoc.keys d.reflections = ["log.Log"] from hnames]
    decide
  rw [findMethods, hclass, Option.map_none]

end Discovery
end Exposure
