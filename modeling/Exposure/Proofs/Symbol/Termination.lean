import Exposure.Proofs.Symbol.Navigation
import Mathlib.Data.List.Chain

/-!
Look-ups end. A look-up is described without any bound on its nesting, by what it does with the name
that it is asked for and by the look-ups that it makes in turn. A record is taken out of the cache
before the first of these, so that the records that are left bound their nesting, and no record
becomes a symbol twice.
-/
namespace Exposure.SymbolCache

/-- What the cache is asked for: an entity, or the methods that a class lists. -/
inductive Task where
  | lookUp (e : Entity)
  | listed (className : String) (names : List String)

/-- A task that begins with the cache `c` ends with the cache `c'`. On the way the entities `made`
become symbols, one after the other, and the numbers of the symbols that were found are handed
back. -/
inductive Ends : Task → (c : SymbolCache) → (made : List Entity) → (found : List Nat) →
    (c' : SymbolCache) → Prop
  /-- A name that is not in the index is noted. -/
  | unheardClass {c : SymbolCache} {name : String} (h : c.classes.get? name = none) :
      Ends (.lookUp (.ofClass name)) c [] [] { c with classes := c.classes.insert name .unknown }
  | unknownClass {c : SymbolCache} {name : String} (h : c.classes.get? name = some .unknown) :
      Ends (.lookUp (.ofClass name)) c [] [] c
  | knownClass {c : SymbolCache} {name : String} {k : Nat}
      (h : c.classes.get? name = some (.symbol k)) : Ends (.lookUp (.ofClass name)) c [] [k] c
  /-- The symbol takes the place of the record, and then the listed methods are looked up. -/
  | recordClass {c c' : SymbolCache} {name : String} {r : ClassRecord} {made : List Entity}
      {found : List Nat} (h : c.classes.get? name = some (.record r))
      (hlisted : Ends (.listed name r.methodNames) (c.enterClass name r) made found c') :
      Ends (.lookUp (.ofClass name)) c (.ofClass name :: made) [c.classSymbols.length]
        (c'.attachMethods c.classSymbols.length found)
  | unheardMethod {c : SymbolCache} {name : String} (h : c.methods.get? name = none) :
      Ends (.lookUp (.ofMethod name)) c [] [] { c with methods := c.methods.insert name .unknown }
  | unknownMethod {c : SymbolCache} {name : String} (h : c.methods.get? name = some .unknown) :
      Ends (.lookUp (.ofMethod name)) c [] [] c
  | knownMethod {c : SymbolCache} {name : String} {k : Nat}
      (h : c.methods.get? name = some (.symbol k)) : Ends (.lookUp (.ofMethod name)) c [] [k] c
  /-- The symbol takes the place of the record, and then the class is looked up. -/
  | recordMethod {c c' : SymbolCache} {name : String} {r : MethodRecord} {made : List Entity}
      {found : List Nat} (h : c.methods.get? name = some (.record r))
      (hclass : Ends (.lookUp (.ofClass r.className)) (c.enterMethod name r) made found c') :
      Ends (.lookUp (.ofMethod name)) c (.ofMethod name :: made) [c.methodSymbols.length]
        (c'.attachParent c.methodSymbols.length found.head?)
  | noneListed {c : SymbolCache} {className : String} : Ends (.listed className []) c [] [] c
  | listed {c c' c'' : SymbolCache} {className m : String} {ms : List String}
      {made made' : List Entity} {found found' : List Nat}
      (hmethod : Ends (.lookUp (.ofMethod (joinMethodName className m))) c made found c')
      (hrest : Ends (.listed className ms) c' made' found' c'') :
      Ends (.listed className (m :: ms)) c (made ++ made') (found ++ found') c''

/-- A record that waits to become a symbol. -/
inductive Waiting where
  | ofClass (r : ClassRecord)
  | ofMethod (r : MethodRecord)

def Waiting.class? : Waiting → Option ClassRecord
  | .ofClass r => some r
  | .ofMethod _ => none

def Waiting.method? : Waiting → Option MethodRecord
  | .ofClass _ => none
  | .ofMethod r => some r

/-- The record that a name has in the table, as long as it is one. -/
def waitingAt {ρ : Type} (slots : Table (Slot ρ)) (name : String) : Option ρ :=
  (slots.get? name).bind fun s => match s with
    | .record r => some r
    | _ => none

/-- The record of an entity, as long as it has not become a symbol. -/
def waiting? (c : SymbolCache) : Entity → Option Waiting
  | .ofClass name => (waitingAt c.classes name).map .ofClass
  | .ofMethod name => (waitingAt c.methods name).map .ofMethod

/-- From one cache to the other the entities have become symbols in this order, each of them once
and out of its record, and nothing else has. -/
structure Makes (c : SymbolCache) (made : List Entity) (c' : SymbolCache) : Prop where
  nodup : made.Nodup
  waited : ∀ e ∈ made, (c.waiting? e).isSome = true
  rest : ∀ e, c'.waiting? e = if e ∈ made then none else c.waiting? e
  pending : c'.pending + made.length = c.pending
  classes : c'.classSymbols.map ClassSymbol.record =
    c.classSymbols.map ClassSymbol.record ++
      made.filterMap fun e => (c.waiting? e).bind Waiting.class?
  methods : c'.methodSymbols.map MethodSymbol.record =
    c.methodSymbols.map MethodSymbol.record ++
      made.filterMap fun e => (c.waiting? e).bind Waiting.method?

/-- A look-up that is under way, with the cache that it has begun with. -/
abbrev Running := Entity × SymbolCache

/-- A look-up makes another one in turn: of a method that its class lists, when those listed before
have been looked up, or of the class of its method. -/
inductive Invokes : Running → Running → Prop
  | method {c c' : SymbolCache} {name m : String} {r : ClassRecord} {before behind : List String}
      {made : List Entity} {found : List Nat} (h : c.classes.get? name = some (.record r))
      (hnames : r.methodNames = before ++ m :: behind)
      (hbefore : Ends (.listed name before) (c.enterClass name r) made found c') :
      Invokes (.ofClass name, c) (.ofMethod (joinMethodName name m), c')
  | parent {c : SymbolCache} {name : String} {r : MethodRecord}
      (h : c.methods.get? name = some (.record r)) :
      Invokes (.ofMethod name, c) (.ofClass r.className, c.enterMethod name r)

/-- Calls one after the other, and what they make altogether. -/
inductive Runs : List Call → (c : SymbolCache) → (made : List Entity) → (c' : SymbolCache) → Prop
  | nil {c : SymbolCache} : Runs [] c [] c
  | read {calls : List Call} {c c' : SymbolCache} {made : List Entity} (h : Runs calls c made c') :
      Runs (.read :: calls) c made c'
  | lookUp {calls : List Call} {e : Entity} {c c' c'' : SymbolCache} {made made' : List Entity}
      {found : List Nat} (hends : Ends (.lookUp e) c made found c') (h : Runs calls c' made' c'') :
      Runs (.lookUp e :: calls) c (made ++ made') c''

variable {c c' c'' : SymbolCache} {name : String} {e : Entity} {made made' : List Entity}

section Records

variable {ρ : Type} {slots : Table (Slot ρ)} {other : String}

theorem waitingAt_eq_some_iff {r : ρ} :
    waitingAt slots name = some r ↔ slots.get? name = some (.record r) := by
  rw [waitingAt]
  rcases slots.get? name with _ | (r' | k | _) <;> simp

theorem waitingAt_insert_unknown (h : slots.get? name = none) :
    waitingAt (slots.insert name .unknown) other = waitingAt slots other := by
  rw [waitingAt, waitingAt, Table.get?_insert]
  by_cases hname : name = other
  · rw [if_pos hname, ← hname, h]
    rfl
  · rw [if_neg hname]

theorem waitingAt_insert_symbol (k : Nat) :
    waitingAt (slots.insert name (.symbol k)) other =
      if other = name then none else waitingAt slots other := by
  rw [waitingAt, Table.get?_insert]
  by_cases hname : name = other
  · rw [if_pos hname, if_pos hname.symm]
    rfl
  · rw [if_neg hname, if_neg (Ne.symm hname), waitingAt]

end Records

namespace Makes

/-- A change that leaves the records and the symbols made of them alone. -/
theorem of_eq (hwaiting : ∀ e, c'.waiting? e = c.waiting? e) (hpending : c'.pending = c.pending)
    (hclasses : c'.classSymbols.map ClassSymbol.record = c.classSymbols.map ClassSymbol.record)
    (hmethods : c'.methodSymbols.map MethodSymbol.record =
      c.methodSymbols.map MethodSymbol.record) : Makes c [] c' where
  nodup := List.nodup_nil
  waited := List.forall_mem_nil _
  rest e := by simp [hwaiting e]
  pending := hpending
  classes := by simp [hclasses]
  methods := by simp [hmethods]

theorem refl (c : SymbolCache) : Makes c [] c := of_eq (fun _ => rfl) rfl rfl rfl

theorem waiting_eq (h : Makes c made c') (h' : (c'.waiting? e).isSome = true) :
    e ∉ made ∧ c'.waiting? e = c.waiting? e := by
  rw [h.rest e] at h' ⊢
  split at h'
  · cases h'
  · rename_i hmade
    exact ⟨hmade, if_neg hmade⟩

/-- Symbols that are made later are made of records that have been there before. -/
theorem filterMap_eq {α : Type} (h : Makes c made c') (h' : Makes c' made' c'')
    (f : Waiting → Option α) :
    (made'.filterMap fun e => (c'.waiting? e).bind f) =
      made'.filterMap fun e => (c.waiting? e).bind f :=
  List.filterMap_congr fun e he => by rw [(h.waiting_eq (h'.waited e he)).2]

theorem trans (h : Makes c made c') (h' : Makes c' made' c'') : Makes c (made ++ made') c'' where
  nodup := List.nodup_append.2 ⟨h.nodup, h'.nodup, fun a ha b hb hab =>
    (h.waiting_eq (h'.waited b hb)).1 (hab ▸ ha)⟩
  waited e he := by
    rcases List.mem_append.1 he with he | he
    · exact h.waited e he
    · rw [← (h.waiting_eq (h'.waited e he)).2]
      exact h'.waited e he
  rest e := by
    rw [h'.rest, h.rest]
    by_cases hmade : e ∈ made <;> by_cases hmade' : e ∈ made' <;> simp [hmade, hmade']
  pending := by
    have hfirst := h.pending
    have hsecond := h'.pending
    rw [List.length_append]
    omega
  classes := by
    rw [h'.classes, h.classes, h.filterMap_eq h', List.filterMap_append, List.append_assoc]
  methods := by
    rw [h'.methods, h.methods, h.filterMap_eq h', List.filterMap_append, List.append_assoc]

theorem noteClass (h : c.classes.get? name = none) :
    Makes c [] { c with classes := c.classes.insert name .unknown } := by
  refine of_eq (fun e => ?_) ?_ rfl rfl
  · cases e with
    | ofClass other => rw [waiting?, waitingAt_insert_unknown h, waiting?]
    | ofMethod other => rfl
  · rw [SymbolCache.pending, rawCount_insert_unknown h, SymbolCache.pending]

theorem noteMethod (h : c.methods.get? name = none) :
    Makes c [] { c with methods := c.methods.insert name .unknown } := by
  refine of_eq (fun e => ?_) ?_ rfl rfl
  · cases e with
    | ofClass other => rfl
    | ofMethod other => rw [waiting?, waitingAt_insert_unknown h, waiting?]
  · rw [SymbolCache.pending, rawCount_insert_unknown h, SymbolCache.pending]

theorem enterClass {r : ClassRecord} (h : c.classes.get? name = some (.record r)) :
    Makes c [.ofClass name] (c.enterClass name r) where
  nodup := by simp
  waited := by simp [waiting?, waitingAt_eq_some_iff.2 h]
  rest e := by
    cases e with
    | ofClass other =>
        rw [waiting?, SymbolCache.enterClass, waitingAt_insert_symbol, waiting?]
        by_cases hother : other = name <;> simp [hother]
    | ofMethod other => simp [waiting?, SymbolCache.enterClass]
  pending := by
    have hcount := rawCount_insert_symbol h c.classSymbols.length
    simp only [SymbolCache.pending, SymbolCache.enterClass, List.length_singleton]
    omega
  classes := by simp [SymbolCache.enterClass, waiting?, waitingAt_eq_some_iff.2 h, Waiting.class?]
  methods := by simp [SymbolCache.enterClass, waiting?, waitingAt_eq_some_iff.2 h, Waiting.method?]

theorem enterMethod {r : MethodRecord} (h : c.methods.get? name = some (.record r)) :
    Makes c [.ofMethod name] (c.enterMethod name r) where
  nodup := by simp
  waited := by simp [waiting?, waitingAt_eq_some_iff.2 h]
  rest e := by
    cases e with
    | ofClass other => simp [waiting?, SymbolCache.enterMethod]
    | ofMethod other =>
        rw [waiting?, SymbolCache.enterMethod, waitingAt_insert_symbol, waiting?]
        by_cases hother : other = name <;> simp [hother]
  pending := by
    have hcount := rawCount_insert_symbol h c.methodSymbols.length
    simp only [SymbolCache.pending, SymbolCache.enterMethod, List.length_singleton]
    omega
  classes := by simp [SymbolCache.enterMethod, waiting?, waitingAt_eq_some_iff.2 h, Waiting.class?]
  methods := by simp [SymbolCache.enterMethod, waiting?, waitingAt_eq_some_iff.2 h, Waiting.method?]

/-- Links that are attached at the end make no symbol. -/
theorem closed (h : Makes c made c') (h' : Makes c' [] c'') : Makes c made c'' := by
  have htrans := h.trans h'
  rwa [List.append_nil] at htrans

theorem attachMethods (c : SymbolCache) (k : Nat) (found : List Nat) :
    Makes c [] (c.attachMethods k found) := by
  refine of_eq (fun e => by cases e <;> rfl) rfl ?_ rfl
  refine map_modify_of_eq ?_ c.classSymbols k
  intro s
  rfl

theorem attachParent (c : SymbolCache) (k : Nat) (parent : Option Nat) :
    Makes c [] (c.attachParent k parent) := by
  refine of_eq (fun e => by cases e <;> rfl) rfl rfl ?_
  refine map_modify_of_eq ?_ c.methodSymbols k
  intro s
  rfl

end Makes

/-- Whatever a task leads to, it makes symbols out of records, and each record is used once. -/
theorem Ends.makes {t : Task} {found : List Nat} (h : Ends t c made found c') :
    Makes c made c' := by
  induction h with
  | unheardClass h => exact .noteClass h
  | unknownClass h => exact .refl _
  | knownClass h => exact .refl _
  | recordClass h hlisted ih => exact (Makes.enterClass h).trans (ih.closed (.attachMethods _ _ _))
  | unheardMethod h => exact .noteMethod h
  | unknownMethod h => exact .refl _
  | knownMethod h => exact .refl _
  | recordMethod h hclass ih => exact (Makes.enterMethod h).trans (ih.closed (.attachParent _ _ _))
  | noneListed => exact .refl _
  | listed hmethod hrest ih ih' => exact ih.trans ih'

/-- A task ends in one way. -/
theorem Ends.unique {t : Task} {found found' : List Nat} (h : Ends t c made found c')
    (h' : Ends t c made' found' c'') : made' = made ∧ found' = found ∧ c'' = c' := by
  induction h generalizing made' found' c'' with
  | unheardClass h | unknownClass h | knownClass h | unheardMethod h | unknownMethod h
  | knownMethod h => cases h' <;> simp_all
  | recordClass h hlisted ih =>
      cases h' with
      | recordClass hslot hlisted' =>
          cases h.symm.trans hslot
          obtain ⟨rfl, rfl, rfl⟩ := ih hlisted'
          exact ⟨rfl, rfl, rfl⟩
      | unheardClass hslot | unknownClass hslot | knownClass hslot => cases h.symm.trans hslot
  | recordMethod h hclass ih =>
      cases h' with
      | recordMethod hslot hclass' =>
          cases h.symm.trans hslot
          obtain ⟨rfl, rfl, rfl⟩ := ih hclass'
          exact ⟨rfl, rfl, rfl⟩
      | unheardMethod hslot | unknownMethod hslot | knownMethod hslot => cases h.symm.trans hslot
  | noneListed =>
      cases h'
      exact ⟨rfl, rfl, rfl⟩
  | listed hmethod hrest ih ih' =>
      cases h' with
      | listed hmethod' hrest' =>
          obtain ⟨rfl, rfl, rfl⟩ := ih hmethod'
          obtain ⟨rfl, rfl, rfl⟩ := ih' hrest'
          exact ⟨rfl, rfl, rfl⟩

/-- A look-up of either kind, the nesting of which the fuel bounds. -/
def lookUpWithin (fuel : Nat) : Entity → SymbolCache → Option Nat × SymbolCache
  | .ofClass name => classWithin fuel name
  | .ofMethod name => methodWithin fuel name

section Fuel

variable {fuel : Nat} (ih : ∀ e c, c.pending < fuel → ∃ made,
  Ends (.lookUp e) c made (lookUpWithin fuel e c).1.toList (lookUpWithin fuel e c).2)

include ih

theorem ends_foldl (className : String) (ms : List String) (found : List Nat)
    (hc : c.pending < fuel) : ∃ made found' c',
      ms.foldl (lookUpListed fuel className) (found, c) = (found ++ found', c') ∧
        Ends (.listed className ms) c made found' c' := by
  induction ms generalizing found c with
  | nil => exact ⟨[], [], c, by simp, .noneListed⟩
  | cons m ms ihms =>
      obtain ⟨made, hends⟩ := ih (.ofMethod (joinMethodName className m)) c hc
      rcases hres : methodWithin fuel (joinMethodName className m) c with ⟨k, d⟩
      rw [lookUpWithin, hres] at hends
      -- No look-up gives records back, so that the fuel is enough for the others too.
      have hd : d.pending < fuel := by
        have hpending : d.pending + made.length = c.pending := hends.makes.pending
        omega
      obtain ⟨made', found', c', hfold, hrest⟩ := ihms (found ++ k.toList) hd
      refine ⟨made ++ made', k.toList ++ found', c', ?_, .listed hends hrest⟩
      rw [List.foldl_cons, ← List.append_assoc, ← hfold]
      cases k with
      | none => simp [lookUpListed, hres]
      | some k => simp [lookUpListed, hres]

theorem ends_classWithin (hc : c.pending < fuel + 1) : ∃ made,
    Ends (.lookUp (.ofClass name)) c made (classWithin (fuel + 1) name c).1.toList
      (classWithin (fuel + 1) name c).2 := by
  cases hslot : c.classes.get? name with
  | none =>
      simp only [classWithin, hslot]
      exact ⟨[], .unheardClass hslot⟩
  | some slot =>
      cases slot with
      | unknown =>
          simp only [classWithin, hslot]
          exact ⟨[], .unknownClass hslot⟩
      | symbol k =>
          simp only [classWithin, hslot]
          exact ⟨[], .knownClass hslot⟩
      | record r =>
          have hpending := (Makes.enterClass hslot).pending
          rw [List.length_singleton] at hpending
          obtain ⟨made, found, c', hfold, hlisted⟩ :=
            ends_foldl ih name r.methodNames [] (c := c.enterClass name r) (by omega)
          rw [classWithin_record fuel hslot, hfold]
          exact ⟨_, .recordClass hslot hlisted⟩

theorem ends_methodWithin (hc : c.pending < fuel + 1) : ∃ made,
    Ends (.lookUp (.ofMethod name)) c made (methodWithin (fuel + 1) name c).1.toList
      (methodWithin (fuel + 1) name c).2 := by
  cases hslot : c.methods.get? name with
  | none =>
      simp only [methodWithin, hslot]
      exact ⟨[], .unheardMethod hslot⟩
  | some slot =>
      cases slot with
      | unknown =>
          simp only [methodWithin, hslot]
          exact ⟨[], .unknownMethod hslot⟩
      | symbol k =>
          simp only [methodWithin, hslot]
          exact ⟨[], .knownMethod hslot⟩
      | record r =>
          have hpending := (Makes.enterMethod hslot).pending
          rw [List.length_singleton] at hpending
          obtain ⟨made, hclass⟩ := ih (.ofClass r.className) (c.enterMethod name r) (by omega)
          have hends := Ends.recordMethod hslot hclass
          rw [lookUpWithin, Option.head?_toList] at hends
          rw [methodWithin_record fuel hslot]
          exact ⟨_, hends⟩

end Fuel

/-- With fuel for the records that are left, a look-up ends as it does without any bound. -/
theorem ends_lookUpWithin (fuel : Nat) : ∀ e c, c.pending < fuel → ∃ made,
    Ends (.lookUp e) c made (lookUpWithin fuel e c).1.toList (lookUpWithin fuel e c).2 := by
  induction fuel with
  | zero => exact fun e c hc => absurd hc (Nat.not_lt_zero _)
  | succ fuel ih =>
      intro e c hc
      cases e with
      | ofClass name => exact ends_classWithin ih hc
      | ofMethod name => exact ends_methodWithin ih hc

/-- What a found number stands for. -/
def refOf : Entity → Nat → SymbolRef
  | .ofClass _ => .ofClass
  | .ofMethod _ => .ofMethod

theorem ends_lookUp (c : SymbolCache) (e : Entity) :
    ∃ made found, Ends (.lookUp e) c made found (c.lookUp e).2 ∧
      (c.lookUp e).1 = found.head?.map (refOf e) := by
  obtain ⟨made, hends⟩ := ends_lookUpWithin (c.pending + 1) e c (Nat.lt_succ_self _)
  cases e with
  | ofClass name => exact ⟨made, _, hends, by rw [Option.head?_toList]; rfl⟩
  | ofMethod name => exact ⟨made, _, hends, by rw [Option.head?_toList]; rfl⟩

theorem exists_runs (calls : List Call) (c : SymbolCache) :
    ∃ made, Runs calls c made (calls.foldl call c) := by
  induction calls generalizing c with
  | nil => exact ⟨[], .nil⟩
  | cons next calls ih =>
      cases next with
      | read =>
          obtain ⟨made, h⟩ := ih c
          exact ⟨made, .read h⟩
      | lookUp e =>
          obtain ⟨made, found, hends, -⟩ := ends_lookUp c e
          obtain ⟨made', h⟩ := ih (c.lookUp e).2
          exact ⟨made ++ made', .lookUp hends h⟩

theorem Runs.makes {calls : List Call} (h : Runs calls c made c') : Makes c made c' := by
  induction h with
  | nil => exact .refl _
  | read h ih => exact ih
  | lookUp hends h ih => exact hends.makes.trans ih

/-- A nested look-up begins with fewer records than the one that makes it. -/
theorem Invokes.pending_lt {p q : Running} (h : Invokes p q) : q.2.pending < p.2.pending := by
  cases h with
  | method h hnames hbefore =>
      have hentered := (Makes.enterClass h).pending
      have hlisted := hbefore.makes.pending
      rw [List.length_singleton] at hentered
      dsimp only
      omega
  | parent h =>
      have hentered := (Makes.enterMethod h).pending
      rw [List.length_singleton] at hentered
      dsimp only
      omega

theorem pending_decreases {chain : List Running} (h : chain.IsChain Invokes) :
    (chain.map fun p => p.2.pending).Pairwise (· > ·) := by
  rw [← List.isChain_iff_pairwise, List.isChain_map]
  exact h.imp fun _ _ hinvokes => hinvokes.pending_lt

/-- Only a look-up that finds a record makes others in turn. -/
theorem not_invokes (h : c.waiting? e = none) (q : Running) : ¬Invokes (e, c) q := by
  intro hinvokes
  cases hinvokes with
  | method hslot => simp [waiting?, waitingAt_eq_some_iff.2 hslot] at h
  | parent hslot => simp [waiting?, waitingAt_eq_some_iff.2 hslot] at h

/-- A look-up makes a symbol of its own entity just if it finds its record. -/
theorem Ends.made_eq_nil_iff {found : List Nat} (h : Ends (.lookUp e) c made found c') :
    made = [] ↔ c.waiting? e = none := by
  have hnone {ρ : Type} {slots : Table (Slot ρ)} {name : String}
      (hslot : ∀ r, slots.get? name ≠ some (.record r)) : waitingAt slots name = none :=
    Option.eq_none_iff_forall_ne_some.2 fun r hr => hslot r (waitingAt_eq_some_iff.1 hr)
  cases h with
  | unheardClass hslot | unknownClass hslot | knownClass hslot | unheardMethod hslot
  | unknownMethod hslot | knownMethod hslot =>
      simp [waiting?, hnone (fun r hr => by cases hslot.symm.trans hr)]
  | recordClass hslot | recordMethod hslot => simp [waiting?, waitingAt_eq_some_iff.2 hslot]

/-- Every look-up ends, whatever the cache, in one way, which is what the bounded look-ups compute.
Over any calls on a loaded index no record becomes a symbol twice. Along every chain of nested
look-ups the records left in the cache become fewer from one to the next; a look-up that finds no
record makes no other and uses up none, and one that finds a record leaves fewer behind. -/
theorem lookUps_end (i : Index) :
    (∀ c e, ∃ made found, Ends (.lookUp e) c made found (c.lookUp e).2 ∧
      (c.lookUp e).1 = found.head?.map (refOf e) ∧
      ∀ made' found' c', Ends (.lookUp e) c made' found' c' →
        made' = made ∧ found' = found ∧ c' = (c.lookUp e).2) ∧
    (∀ calls, ∃ made, Runs calls (ofIndex i) made (after i calls) ∧
      Makes (ofIndex i) made (after i calls)) ∧
    (∀ chain : List Running, chain.IsChain Invokes →
      (chain.map fun p => p.2.pending).Pairwise (· > ·)) ∧
    ∀ c e, (c.waiting? e = none → (c.lookUp e).2.pending = c.pending ∧ ∀ q, ¬Invokes (e, c) q) ∧
      (c.waiting? e ≠ none → (c.lookUp e).2.pending < c.pending) := by
  refine ⟨fun c e => ?_, fun calls => ?_, fun chain => pending_decreases, fun c e => ?_⟩
  · obtain ⟨made, found, hends, hfound⟩ := ends_lookUp c e
    exact ⟨made, found, hends, hfound, fun made' found' c' h => hends.unique h⟩
  · obtain ⟨made, hruns⟩ := exists_runs calls (ofIndex i)
    exact ⟨made, hruns, hruns.makes⟩
  · obtain ⟨made, found, hends, -⟩ := ends_lookUp c e
    have hpending := hends.makes.pending
    refine ⟨fun hnone => ⟨?_, not_invokes hnone⟩, fun hsome => ?_⟩
    · rw [hends.made_eq_nil_iff.2 hnone] at hpending
      exact hpending
    · have hmade := List.length_pos_iff.2 (mt hends.made_eq_nil_iff.1 hsome)
      omega

end Exposure.SymbolCache
