import Exposure.Proofs.Module.Statement

/-!
Where the modules in the table come from. Loading one leaves those that are there as they are, and
every module that comes to the table was found under its name, in the search root if it is no part
of a package.
-/
namespace Exposure

open Eval Exposure.Module

/-- The file of a module, if it has one, is what its name leads to: in the search root, or for a
part of a package in directories of that. -/
def Module.FoundAs (fs : FileSystem) (root : Option Path) (name : String) (file : Option Path) :
    Prop :=
  ∃ directories origin, findIn fs (splitPackage name).2 [] directories = some origin ∧
    (ofOrigin name origin).2 = file ∧ ((splitPackage name).1 = none → directories = root.toList)

namespace World

/-- Modules have been added to the table at most, each by its name and the file where it is found.
-/
def Gains (found : String → Option Path → Prop) (w w' : World) : Prop :=
  ∀ name, Assoc.get? name w'.loaded = Assoc.get? name w.loaded ∨
    Assoc.get? name w.loaded = none ∧
      ∃ l, Assoc.get? name w'.loaded = some l ∧ found name l.file

variable {found : String → Option Path → Prop} {w w' : World} {name : String}

theorem ofTable_gains (found : String → Option Path → Prop) : OfTable (Gains found) where
  same h name := .inl (by rw [h])
  trans hab hbc name := by
    cases hbc name with
    | inl hsame =>
        rw [hsame]
        exact hab name
    | inr hnew =>
        obtain ⟨hnone, hfound⟩ := hnew
        cases hab name with
        | inl hsame => exact .inr ⟨hsame.symm.trans hnone, hfound⟩
        | inr hnew =>
            obtain ⟨-, l, hl, -⟩ := hnew
            cases hnone.symm.trans hl

theorem Gains.keeps (h : w.Gains found w') {l : Loaded} (hl : Assoc.get? name w.loaded = some l) :
    Assoc.get? name w'.loaded = some l := by
  cases h name with
  | inl hsame => exact hsame.trans hl
  | inr hnew => cases hnew.1.symm.trans hl

theorem gains_add {m : Module} {file : Option Path} (hnew : Assoc.get? m.name w.loaded = none)
    (hfound : found m.name file) : w.Gains found (w.add m file) := by
  intro name
  have hget : Assoc.get? name (w.add m file).loaded =
      if m.name = name then some ⟨w.modules.size, file⟩ else Assoc.get? name w.loaded :=
    Assoc.get?_put _ _ _ _
  by_cases hname : m.name = name
  · subst hname
    rw [if_pos rfl] at hget
    exact .inr ⟨hnew, _, hget, hfound⟩
  · rw [if_neg hname] at hget
    exact .inl hget

/-- A module that was added may be taken out again. -/
theorem Gains.unload (h : w.Gains found w') (hnew : Assoc.get? name w.loaded = none) :
    w.Gains found (w'.unload name) := by
  intro n
  have hget : Assoc.get? n (w'.unload name).loaded =
      if n = name then none else Assoc.get? n w'.loaded := Assoc.get?_without _ _ _
  by_cases hn : n = name
  · subst hn
    rw [if_pos rfl] at hget
    exact .inl (hget.trans hnew.symm)
  · rw [if_neg hn] at hget
    rw [hget]
    exact h n

end World

open World

variable {fs : FileSystem} {s : Services}

theorem makeModule_ends (fs : FileSystem) (s : Services) (name : String) (origin : Origin)
    (w : World) :
    (makeModule fs s name origin).ends w = match (ofOrigin name origin).2 with
      | none => (.ok w.modules.size, w.add (ofOrigin name origin).1 none)
      | some file =>
        match (runModule fs s w.modules.size file).ends
          (w.add (ofOrigin name origin).1 (some file)) with
        | (.ok _, v) => (.ok w.modules.size, v)
        | (.error r, v) => (.error r, v.unload name) := by
  unfold makeModule
  cases ofOrigin name origin with
  | mk m file =>
      cases file with
      | none => rfl
      | some file =>
          show ends (tryCatch (runModule fs s w.modules.size file) (fun r => do
              modify fun w => w.unload name
              throw r) >>= fun _ => pure w.modules.size) (w.add m (some file)) = _
          rw [ends_bind, ends_tryCatch]
          dsimp only
          cases ends (runModule fs s w.modules.size file) (w.add m (some file)) with
          | mk outcome v => cases outcome <;> rfl

theorem acts_runModule {R : World → World → Prop} (h : s.Obeys R) (index : Nat) (file : Path) :
    Acts R (runModule fs s index file) := by
  have hR := h.toOfTable
  have hrun (body : List Source.Stmt) (f : Frame) :
      Acts R (discard (Source.execAll s f body)) := (Source.acts_execAll h f body).discard hR
  unfold runModule
  split
  · exact acts_throw hR _
  · dsimp only
    split
    · exact (acts_bind hR _ _ _).bind hR (hrun _)
    · exact (acts_pure hR _).bind hR (hrun _)

/-- Making a module that is not loaded adds it, and what its text loads. -/
theorem gains_makeModule {found : String → Option Path → Prop} (h : s.Obeys (Gains found))
    {name : String} {origin : Origin} {w : World} (hnew : Assoc.get? name w.loaded = none)
    (hfound : found name (ofOrigin name origin).2) :
    w.Gains found (ends (makeModule fs s name origin) w).2 := by
  have hname : (ofOrigin name origin).1.name = name := by cases origin <;> rfl
  have hadd (file : Option Path) (hfile : (ofOrigin name origin).2 = file) :
      w.Gains found (w.add (ofOrigin name origin).1 file) :=
    gains_add (by rwa [hname]) (by rwa [hname, ← hfile])
  rw [makeModule_ends]
  cases hfile : (ofOrigin name origin).2 with
  | none => exact hadd none hfile
  | some file =>
      have hrun := h.trans (hadd (some file) hfile)
        (@acts_runModule fs s _ h w.modules.size file _)
      dsimp only
      cases hends : (runModule fs s w.modules.size file).ends
        (w.add (ofOrigin name origin).1 (some file)) with
      | mk outcome v =>
          rw [hends] at hrun
          cases outcome with
          | ok _ => exact hrun
          | error r => exact hrun.unload hnew

/-- Loading adds modules from where their names lead. -/
theorem acts_loadStep {root : Option Path} (h : s.Obeys (Gains (FoundAs fs root))) (name : String) :
    Acts (Gains (FoundAs fs root)) (loadStep fs root.toList s name) := by
  have hR := h.toOfTable
  intro w
  unfold loadStep
  rw [ends_get_bind]
  split
  · exact acts_pure hR _ w
  · rename_i hnew
    dsimp only
    split
    · rename_i last hsplit
      split
      · rename_i origin hfind
        refine gains_makeModule h (Option.eq_none_iff_forall_ne_some.2 hnew)
          ⟨root.toList, origin, ?_, rfl, fun _ => rfl⟩
        rwa [hsplit]
      · exact acts_throw hR _ w
    · rename_i package last hsplit
      refine hR.bind (h.load package w) fun parent w => ?_
      rw [ends_get_bind]
      split
      · exact acts_pure hR _ w
      · rename_i hnew
        rw [ends_get_bind]
        split
        · rename_i origin hfind
          have hfound : FoundAs fs root name (ofOrigin name origin).2 :=
            ⟨_, origin, by rwa [hsplit], rfl, fun hnone => by simp [hsplit] at hnone⟩
          refine hR.bind (gains_makeModule h (Option.eq_none_iff_forall_ne_some.2 hnew) hfound)
            fun index => ?_
          exact (acts_withNames hR _ _).bind hR fun _ => acts_pure hR _
        · exact acts_throw hR _ w

/-- So do all services, however deep they may be nested. -/
theorem obeys_services (fs : FileSystem) (root : Option Path) (limit : Nat) :
    (services fs root.toList limit).Obeys (Gains (FoundAs fs root)) := by
  have hR := ofTable_gains (FoundAs fs root)
  induction limit with
  | zero => exact ⟨hR, fun _ => acts_throw hR _, fun _ _ => acts_throw hR _⟩
  | succ limit ih => exact ⟨hR, acts_loadStep ih, Source.acts_callFunction ih⟩

theorem acts_loadModule (fs : FileSystem) (root : Path) (name : String) :
    Acts (Gains (FoundAs fs (some root))) (loadModule fs root name) := by
  have h := obeys_services fs (some root) callLimit
  unfold loadModule
  split
  · exact acts_throw h.toOfTable _
  · split
    · exact acts_throw h.toOfTable _
    · exact h.load name

end Exposure
