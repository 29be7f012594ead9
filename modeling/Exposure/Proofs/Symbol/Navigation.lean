import Exposure.Proofs.Symbol.Hydration

/-!
What can be reached from a looked-up symbol over its links. After any calls the cache has no open
symbol, and the chains of links from a symbol follow the index: their ends, and which of them are
one and the same symbol, do not depend on the calls made before.
-/
namespace Exposure

inductive Entity where
  | ofClass (name : String)
  | ofMethod (name : String)
  deriving DecidableEq

inductive SymbolRef where
  | ofClass (number : Nat)
  | ofMethod (number : Nat)
  deriving DecidableEq

/-- A way from a symbol to another: to a method of a class by its position, or to the class of a
method. -/
inductive Link where
  | method (position : Nat)
  | parent

/-- What a symbol says apart from its links. -/
inductive Facts where
  | ofClass (record : ClassRecord)
  | ofMethod (record : MethodRecord) (moduleName : Option String)
  deriving DecidableEq

namespace Index

variable (i : Index)

/-- The methods of a class that have records, under their full names. -/
def recordedMethods (className : String) (r : ClassRecord) : List String :=
  (r.methodNames.map (joinMethodName className)).filter i.methods.contains

def next : Entity → Link → Option Entity
  | .ofClass name, .method position =>
    (i.classes.get? name).bind fun r => ((i.recordedMethods name r)[position]?).map .ofMethod
  | .ofMethod name, .parent =>
    (i.methods.get? name).bind fun r =>
      if i.classes.contains r.className then some (.ofClass r.className) else none
  | _, _ => none

def walk : Entity → List Link → Option Entity
  | e, [] => some e
  | e, l :: ls => (i.next e l).bind fun e' => walk e' ls

def has : Entity → Bool
  | .ofClass name => i.classes.contains name
  | .ofMethod name => i.methods.contains name

/-- Where a chain of links ends that starts at a recorded entity. -/
def chainEnd (e : Entity) (ls : List Link) : Option Entity :=
  if i.has e then i.walk e ls else none

def factsOf : Entity → Option Facts
  | .ofClass name => (i.classes.get? name).map .ofClass
  | .ofMethod name => (i.methods.get? name).map fun r =>
    .ofMethod r ((i.classes.get? r.className).bind ClassRecord.moduleName)

end Index

namespace SymbolCache

variable (c : SymbolCache)

/-- The symbol that has taken the place of a record. -/
def ref? : Entity → Option SymbolRef
  | .ofClass name => (numberAt c.classes name).map .ofClass
  | .ofMethod name => (numberAt c.methods name).map .ofMethod

def follow : SymbolRef → Link → Option SymbolRef
  | .ofClass k, .method position =>
    ((c.classSymbol? k).bind fun s => s.exposedMethods[position]?).map .ofMethod
  | .ofMethod k, .parent => ((c.methodSymbol? k).bind MethodSymbol.parent).map .ofClass
  | _, _ => none

def reach : SymbolRef → List Link → Option SymbolRef
  | r, [] => some r
  | r, l :: ls => (c.follow r l).bind fun r' => reach r' ls

def facts? : SymbolRef → Option Facts
  | .ofClass k => (c.classSymbol? k).map fun s => .ofClass s.record
  | .ofMethod k => (c.methodSymbol? k).map fun s => .ofMethod s.record s.moduleName

def lookUp (e : Entity) (c : SymbolCache) : Option SymbolRef × SymbolCache :=
  match e with
  | .ofClass name => ((c.exposedClass name).1.map .ofClass, (c.exposedClass name).2)
  | .ofMethod name => ((c.exposedMethod name).1.map .ofMethod, (c.exposedMethod name).2)

end SymbolCache

inductive Call where
  | lookUp (e : Entity)
  /-- A query of any other kind: it reads the cache and leaves it as it is. -/
  | read

namespace SymbolCache

def call (c : SymbolCache) : Call → SymbolCache
  | .lookUp e => (c.lookUp e).2
  | .read => c

/-- The cache after calls on a loaded index. -/
def after (i : Index) (calls : List Call) : SymbolCache := calls.foldl call (ofIndex i)

variable {i : Index} {c : SymbolCache}

theorem sound_ofIndex (i : Index) : Sound i [] [] (ofIndex i) := by
  refine ⟨⟨hydrates_records i.classes, hydrates_records i.methods, rfl, rfl⟩, ?_, ?_⟩
  · intro name k s hk
    rw [ofIndex, numberAt_records] at hk
    cases hk
  · intro name k s hk
    rw [ofIndex, numberAt_records] at hk
    cases hk

theorem exposedClass_spec (h : Sound i [] [] c) (name : String) :
    ClassLookup i [] [] name c (c.exposedClass name) :=
  (lookup_within (c.pending + 1)).1 [] [] name c h (Nat.lt_succ_self _)

theorem exposedMethod_spec (h : Sound i [] [] c) (name : String) :
    MethodLookup i [] [] name c (c.exposedMethod name) :=
  (lookup_within (c.pending + 1)).2 [] [] name c h (Nat.lt_succ_self _)

theorem sound_lookUp (h : Sound i [] [] c) (e : Entity) : Sound i [] [] (c.lookUp e).2 := by
  cases e with
  | ofClass name => exact (exposedClass_spec h name).1
  | ofMethod name => exact (exposedMethod_spec h name).1

/-- When a call returns no symbol is open. -/
theorem sound_after (i : Index) (calls : List Call) : Sound i [] [] (after i calls) := by
  have hrun (calls : List Call) {c : SymbolCache} (h : Sound i [] [] c) :
      Sound i [] [] (calls.foldl call c) := by
    induction calls generalizing c with
    | nil => exact h
    | cons call calls ih =>
        cases call with
        | lookUp e => exact ih (sound_lookUp h e)
        | read => exact ih h
  exact hrun calls (sound_ofIndex i)

/-- A name has a symbol after it was looked up just if it has a record. -/
theorem isSome_numberAt {ρ : Type} {records : Table ρ} {slots : Table (Slot ρ)}
    {numbered : List ρ} (h : Hydrates records slots numbered) {name : String}
    (hs : Settled slots name) : (numberAt slots name).isSome = records.contains name := by
  cases hr : records.get? name with
  | none => simp [h.numberAt_eq_none hr, Table.contains, hr]
  | some r =>
      obtain ⟨k, hk, -⟩ := h.exists_number hr hs
      simp [hk, Table.contains, hr]

theorem exposedClass_of_numberAt {name : String} {k : Nat}
    (h : numberAt c.classes name = some k) : c.exposedClass name = (some k, c) := by
  simp only [exposedClass, classWithin, numberAt_eq_some_iff.1 h]

theorem exposedMethod_of_numberAt {name : String} {k : Nat}
    (h : numberAt c.methods name = some k) : c.exposedMethod name = (some k, c) := by
  simp only [exposedMethod, methodWithin, numberAt_eq_some_iff.1 h]

theorem map_some_filterMap {α β : Type} {f : α → Option β} {p : α → Bool} {l : List α}
    (h : ∀ a ∈ l, (f a).isSome = p a) : (l.filterMap f).map some = (l.filter p).map f := by
  induction l with
  | nil => rfl
  | cons a l ih =>
      have ha := h a (by simp)
      have hl := ih fun b hb => h b (by simp [hb])
      cases hf : f a with
      | none =>
          rw [hf] at ha
          simp [← ha, hf, hl]
      | some b =>
          rw [hf] at ha
          simp [← ha, hf, hl]

/-- The methods of a class symbol are the symbols of those that have records. -/
theorem Sound.classMethods (h : Sound i [] [] c) {name : String} {k : Nat}
    (hk : numberAt c.classes name = some k) :
    ∃ s, c.classSymbol? k = some s ∧ i.classes.get? name = some s.record ∧
      s.exposedMethods.map some = (i.recordedMethods name s.record).map (numberAt c.methods) := by
  obtain ⟨s, hs, hr⟩ := h.loaded.classSymbol hk
  obtain ⟨hmethods, hsettled⟩ := h.linked.classes name k s hk (by simp) hs
  refine ⟨s, hs, hr, ?_⟩
  have hnumbers : s.exposedMethods =
      (s.record.methodNames.map (joinMethodName name)).filterMap (numberAt c.methods) := by
    rw [hmethods, List.filterMap_map]
    rfl
  rw [hnumbers]
  refine map_some_filterMap fun m hm => ?_
  obtain ⟨n, hn, rfl⟩ := List.mem_map.1 hm
  exact isSome_numberAt h.loaded.methods (hsettled n hn)

/-- The parent of a method symbol is the symbol of its class, which gives it its module. -/
theorem Sound.methodParent (h : Sound i [] [] c) {name : String} {k : Nat}
    (hk : numberAt c.methods name = some k) :
    ∃ s, c.methodSymbol? k = some s ∧ i.methods.get? name = some s.record ∧
      s.parent = numberAt c.classes s.record.className ∧
      s.parent.isSome = i.classes.contains s.record.className ∧
      s.moduleName = (s.parent.bind c.classSymbol?).bind fun p => p.record.moduleName := by
  obtain ⟨s, hs, hr⟩ := h.loaded.methodSymbol hk
  obtain ⟨hparent, hsettled, hmodule⟩ := h.linked.methods name k s hk (by simp) hs
  exact ⟨s, hs, hr, hparent, by rw [hparent, isSome_numberAt h.loaded.classes hsettled], hmodule⟩

theorem follow_eq (h : Sound i [] [] c) {e : Entity} {r : SymbolRef} (hr : c.ref? e = some r)
    (l : Link) :
    c.follow r l = (i.next e l).bind c.ref? ∧ ∀ e', i.next e l = some e' → (c.ref? e').isSome := by
  cases e with
  | ofClass name =>
      obtain ⟨k, hk, rfl⟩ := Option.map_eq_some_iff.1 hr
      cases l with
      | parent => exact ⟨rfl, by simp [Index.next]⟩
      | method position =>
          obtain ⟨s, hs, hrec, hmethods⟩ := h.classMethods hk
          have hget := congrArg (fun l => l[position]?) hmethods
          simp only [List.getElem?_map] at hget
          simp only [follow, Index.next, hs, hrec, Option.bind_some]
          cases hm : (i.recordedMethods name s.record)[position]? with
          | none =>
              rw [hm, Option.map_none, Option.map_eq_none_iff] at hget
              simp [hget]
          | some m =>
              rw [hm, Option.map_some, Option.map_eq_some_iff] at hget
              obtain ⟨n, hn, hnumber⟩ := hget
              simp [hn, ref?, ← hnumber]
  | ofMethod name =>
      obtain ⟨k, hk, rfl⟩ := Option.map_eq_some_iff.1 hr
      cases l with
      | method position => exact ⟨rfl, by simp [Index.next]⟩
      | parent =>
          obtain ⟨s, hs, hrec, hparent, hsome, -⟩ := h.methodParent hk
          simp only [follow, Index.next, hs, hrec, Option.bind_some]
          rw [← hsome, hparent]
          cases hn : numberAt c.classes s.record.className with
          | none => simp
          | some n => simp [ref?, hn]

theorem reach_eq (h : Sound i [] [] c) {e : Entity} {r : SymbolRef} (hr : c.ref? e = some r)
    (ls : List Link) :
    c.reach r ls = (i.walk e ls).bind c.ref? ∧
      ∀ e', i.walk e ls = some e' → (c.ref? e').isSome := by
  induction ls generalizing e r with
  | nil => exact ⟨by simp [reach, Index.walk, hr], by simp [Index.walk, hr]⟩
  | cons l ls ih =>
      obtain ⟨hfollow, hsome⟩ := follow_eq h hr l
      rw [reach, Index.walk, hfollow]
      cases hnext : i.next e l with
      | none => exact ⟨rfl, by simp⟩
      | some e' =>
          obtain ⟨r', hr'⟩ := Option.isSome_iff_exists.1 (hsome e' hnext)
          simp only [Option.bind_some, hr']
          exact ih hr'

theorem facts?_eq (h : Sound i [] [] c) {e : Entity} {r : SymbolRef} (hr : c.ref? e = some r) :
    c.facts? r = i.factsOf e := by
  cases e with
  | ofClass name =>
      obtain ⟨k, hk, rfl⟩ := Option.map_eq_some_iff.1 hr
      obtain ⟨s, hs, hrec⟩ := h.loaded.classSymbol hk
      simp [facts?, Index.factsOf, hs, hrec]
  | ofMethod name =>
      obtain ⟨k, hk, rfl⟩ := Option.map_eq_some_iff.1 hr
      obtain ⟨s, hs, hrec, hparent, hsome, hmodule⟩ := h.methodParent hk
      have hclass : s.moduleName =
          (i.classes.get? s.record.className).bind ClassRecord.moduleName := by
        rw [hmodule, hparent, h.loaded.moduleName]
        rw [hparent] at hsome
        cases hn : numberAt c.classes s.record.className with
        | some n => rfl
        | none =>
            rw [hn, Table.contains] at hsome
            cases hget : i.classes.get? s.record.className with
            | none => rfl
            | some r => simp [hget] at hsome
      simp [facts?, Index.factsOf, hs, hrec, hclass]

theorem ref?_inj (h : Loaded i c) {e e' : Entity} {r : SymbolRef} (he : c.ref? e = some r)
    (he' : c.ref? e' = some r) : e = e' := by
  cases e with
  | ofClass a =>
      obtain ⟨k, hk, rfl⟩ := Option.map_eq_some_iff.1 he
      cases e' with
      | ofClass b =>
          obtain ⟨n, hn, heq⟩ := Option.map_eq_some_iff.1 he'
          cases heq
          rw [h.classes.inj a b k hk hn]
      | ofMethod b =>
          obtain ⟨n, -, heq⟩ := Option.map_eq_some_iff.1 he'
          cases heq
  | ofMethod a =>
      obtain ⟨k, hk, rfl⟩ := Option.map_eq_some_iff.1 he
      cases e' with
      | ofMethod b =>
          obtain ⟨n, hn, heq⟩ := Option.map_eq_some_iff.1 he'
          cases heq
          rw [h.methods.inj a b k hk hn]
      | ofClass b =>
          obtain ⟨n, -, heq⟩ := Option.map_eq_some_iff.1 he'
          cases heq

theorem lookUp_eq_ref? (h : Sound i [] [] c) (e : Entity) :
    (c.lookUp e).1 = (c.lookUp e).2.ref? e ∧ (c.lookUp e).1.isSome = i.has e := by
  cases e with
  | ofClass name =>
      obtain ⟨hsound, -, hsettled, hnumber⟩ := exposedClass_spec h name
      simp only [lookUp, ref?, Index.has, hnumber, Option.isSome_map, true_and]
      exact isSome_numberAt hsound.loaded.classes hsettled
  | ofMethod name =>
      obtain ⟨hsound, -, hsettled, hnumber⟩ := exposedMethod_spec h name
      simp only [lookUp, ref?, Index.has, hnumber, Option.isSome_map, true_and]
      exact isSome_numberAt hsound.loaded.methods hsettled

/-- The symbol at the end of a chain of links from what a look-up gives. -/
def chainEnd (p : Option SymbolRef × SymbolCache) (ls : List Link) : Option SymbolRef :=
  p.1.bind fun r => p.2.reach r ls

theorem chainEnd_eq (h : Sound i [] [] c) (e : Entity) (ls : List Link) :
    chainEnd (c.lookUp e) ls = (i.chainEnd e ls).bind (c.lookUp e).2.ref? ∧
      ∀ e', i.chainEnd e ls = some e' → ((c.lookUp e).2.ref? e').isSome := by
  obtain ⟨hfound, hsome⟩ := lookUp_eq_ref? h e
  rw [Index.chainEnd, ← hsome, chainEnd]
  cases hr : (c.lookUp e).1 with
  | none => simp
  | some r =>
      rw [hr] at hfound
      simpa using reach_eq (sound_lookUp h e) hfound.symm ls

theorem facts?_chainEnd (h : Sound i [] [] c) (e : Entity) (ls : List Link) :
    (chainEnd (c.lookUp e) ls).bind (c.lookUp e).2.facts? =
      (i.chainEnd e ls).bind i.factsOf := by
  obtain ⟨heq, hsome⟩ := chainEnd_eq h e ls
  rw [heq]
  cases htarget : i.chainEnd e ls with
  | none => rfl
  | some e' =>
      obtain ⟨r, hr⟩ := Option.isSome_iff_exists.1 (hsome e' htarget)
      simp only [Option.bind_some, hr, facts?_eq (sound_lookUp h e) hr]

/-- Two chains end at one symbol just if the index leads them to one entity. -/
theorem chainEnd_eq_iff (h : Sound i [] [] c) (e : Entity) (ls ls' : List Link) :
    chainEnd (c.lookUp e) ls = chainEnd (c.lookUp e) ls' ↔
      i.chainEnd e ls = i.chainEnd e ls' := by
  obtain ⟨heq, hsome⟩ := chainEnd_eq h e ls
  obtain ⟨heq', hsome'⟩ := chainEnd_eq h e ls'
  rw [heq, heq']
  refine ⟨fun hends => ?_, fun hends => by rw [hends]⟩
  cases ht : i.chainEnd e ls with
  | none =>
      cases ht' : i.chainEnd e ls' with
      | none => rfl
      | some b =>
          obtain ⟨r, hr⟩ := Option.isSome_iff_exists.1 (hsome' b ht')
          simp [ht, ht', hr] at hends
  | some a =>
      obtain ⟨r, hr⟩ := Option.isSome_iff_exists.1 (hsome a ht)
      cases ht' : i.chainEnd e ls' with
      | none => simp [ht, ht', hr] at hends
      | some b =>
          -- One symbol stands for one entity only.
          rw [ht, ht', Option.bind_some, Option.bind_some] at hends
          rw [ref?_inj (sound_lookUp h e).loaded hr (hends.symm.trans hr)]

theorem Sound.map_exposedMethod (h : Sound i [] [] c) {name : String} {k : Nat}
    (hk : numberAt c.classes name = some k) :
    ∃ s, c.classSymbol? k = some s ∧ i.classes.get? name = some s.record ∧
      (i.recordedMethods name s.record).map c.exposedMethod =
        s.exposedMethods.map fun m => (some m, c) := by
  obtain ⟨s, hs, hr, hmethods⟩ := h.classMethods hk
  refine ⟨s, hs, hr, ?_⟩
  have hcached : ∀ m ∈ i.recordedMethods name s.record,
      c.exposedMethod m = (numberAt c.methods m, c) := by
    intro m hm
    have hmem : numberAt c.methods m ∈ s.exposedMethods.map some := by
      rw [hmethods]
      exact List.mem_map_of_mem hm
    obtain ⟨n, -, hn⟩ := List.mem_map.1 hmem
    rw [← hn, exposedMethod_of_numberAt hn.symm]
  calc (i.recordedMethods name s.record).map c.exposedMethod
      = (i.recordedMethods name s.record).map fun m => (numberAt c.methods m, c) :=
        List.map_congr_left hcached
    _ = ((i.recordedMethods name s.record).map (numberAt c.methods)).map fun k => (k, c) := by
        rw [List.map_map]
        rfl
    _ = s.exposedMethods.map fun m => (some m, c) := by
        rw [← hmethods, List.map_map]
        rfl

/-- After any calls every symbol in the cache is linked to the very symbols that look-ups give.
What is found at the end of a chain of links from a looked-up symbol, and which chains end at the
same symbol, can be told from the index and the name, whatever the calls were. -/
theorem hydrated_after (i : Index) (calls : List Call) :
    (∀ name k, (after i calls).classes.get? name = some (.symbol k) →
      ∃ s, (after i calls).classSymbol? k = some s ∧ i.classes.get? name = some s.record ∧
        (i.recordedMethods name s.record).map (after i calls).exposedMethod =
          s.exposedMethods.map fun m => (some m, after i calls)) ∧
    (∀ name k, (after i calls).methods.get? name = some (.symbol k) →
      ∃ s, (after i calls).methodSymbol? k = some s ∧ i.methods.get? name = some s.record ∧
        (i.classes.contains s.record.className = true → s.parent.isSome ∧
          (after i calls).exposedClass s.record.className = (s.parent, after i calls)) ∧
        (i.classes.contains s.record.className = false → s.parent = none) ∧
        s.moduleName =
          (s.parent.bind (after i calls).classSymbol?).bind fun p => p.record.moduleName) ∧
    ∀ e ls,
      (chainEnd ((after i calls).lookUp e) ls).bind ((after i calls).lookUp e).2.facts? =
        (i.chainEnd e ls).bind i.factsOf ∧
      ∀ ls', chainEnd ((after i calls).lookUp e) ls = chainEnd ((after i calls).lookUp e) ls' ↔
        i.chainEnd e ls = i.chainEnd e ls' := by
  have h := sound_after i calls
  refine ⟨?_, ?_, ?_⟩
  · intro name k hslot
    exact h.map_exposedMethod (numberAt_eq_some_iff.2 hslot)
  · intro name k hslot
    obtain ⟨s, hs, hr, hparent, hsome, hmodule⟩ :=
      h.methodParent (numberAt_eq_some_iff.2 hslot)
    refine ⟨s, hs, hr, fun hclass => ?_, fun hclass => ?_, hmodule⟩
    · rw [hclass] at hsome
      obtain ⟨p, hp⟩ := Option.isSome_iff_exists.1 hsome
      refine ⟨hsome, ?_⟩
      rw [hp, exposedClass_of_numberAt (hparent.symm.trans hp)]
    · rw [hclass] at hsome
      exact Option.isNone_iff_eq_none.1 (by simpa using hsome)
  · intro e ls
    exact ⟨facts?_chainEnd h e ls, fun ls' => chainEnd_eq_iff h e ls ls'⟩

end SymbolCache
end Exposure
