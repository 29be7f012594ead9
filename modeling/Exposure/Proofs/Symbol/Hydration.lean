import Exposure.Proofs.Symbol.Slots
import Mathlib.Data.List.Basic

/-!
Hydration links what it makes. A symbol is open from its entry into the cache until the look-up
that has made it attaches its links; every other symbol in the cache is linked, whatever names
refer to whatever others. When a call returns no symbol is open.
-/
namespace Exposure.SymbolCache

variable {i : Index} {c c' c'' : SymbolCache}

/-- The cache stands for the index, of which some records have become symbols. -/
structure Loaded (i : Index) (c : SymbolCache) : Prop where
  classes : Hydrates i.classes c.classes (c.classSymbols.map ClassSymbol.record)
  methods : Hydrates i.methods c.methods (c.methodSymbols.map MethodSymbol.record)
  classPurposes : c.classPurposes = i.classPurposes
  methodPurposes : c.methodPurposes = i.methodPurposes

/-- A class symbol has the symbols of its listed methods, and none of them can become one later. -/
def ClassLinked (c : SymbolCache) (name : String) (s : ClassSymbol) : Prop :=
  s.exposedMethods =
      s.record.methodNames.filterMap (fun m => numberAt c.methods (joinMethodName name m)) ∧
    ∀ m ∈ s.record.methodNames, Settled c.methods (joinMethodName name m)

/-- A method symbol has the symbol of its class, if there is a record of it, and its module. -/
def MethodLinked (c : SymbolCache) (s : MethodSymbol) : Prop :=
  s.parent = numberAt c.classes s.record.className ∧ Settled c.classes s.record.className ∧
    s.moduleName = (s.parent.bind c.classSymbol?).bind fun p => p.record.moduleName

/-- All symbols are linked but the open ones. -/
structure Linked (openClasses openMethods : List Nat) (c : SymbolCache) : Prop where
  classes : ∀ name k s, numberAt c.classes name = some k → k ∉ openClasses →
    c.classSymbol? k = some s → ClassLinked c name s
  methods : ∀ name k s, numberAt c.methods name = some k → k ∉ openMethods →
    c.methodSymbol? k = some s → MethodLinked c s

structure Later (c c' : SymbolCache) : Prop where
  classes : Grows c.classes c'.classes
  methods : Grows c.methods c'.methods

theorem Later.refl (c : SymbolCache) : Later c c := ⟨.refl _, .refl _⟩

theorem Later.trans (h : Later c c') (h' : Later c' c'') : Later c c'' :=
  ⟨h.classes.trans h'.classes, h.methods.trans h'.methods⟩

theorem Later.pending_le (h : Later c c') : c'.pending ≤ c.pending :=
  Nat.add_le_add h.classes.fewer h.methods.fewer

theorem Loaded.classSymbol (h : Loaded i c) {name : String} {k : Nat}
    (hk : numberAt c.classes name = some k) :
    ∃ s, c.classSymbol? k = some s ∧ i.classes.get? name = some s.record := by
  obtain ⟨r, hr, hget⟩ := h.classes.symbol name k hk
  rw [List.getElem?_map] at hget
  obtain ⟨s, hs, rfl⟩ := Option.map_eq_some_iff.1 hget
  exact ⟨s, hs, hr⟩

theorem Loaded.methodSymbol (h : Loaded i c) {name : String} {k : Nat}
    (hk : numberAt c.methods name = some k) :
    ∃ s, c.methodSymbol? k = some s ∧ i.methods.get? name = some s.record := by
  obtain ⟨r, hr, hget⟩ := h.methods.symbol name k hk
  rw [List.getElem?_map] at hget
  obtain ⟨s, hs, rfl⟩ := Option.map_eq_some_iff.1 hget
  exact ⟨s, hs, hr⟩

theorem ClassLinked.later (hl : Later c c') (h : Loaded i c) (h' : Loaded i c') {name : String}
    {s : ClassSymbol} (hs : ClassLinked c name s) : ClassLinked c' name s := by
  obtain ⟨hmethods, hsettled⟩ := hs
  refine ⟨?_, fun m hm => hl.methods.settled (hsettled m hm)⟩
  rw [hmethods]
  refine List.filterMap_congr fun m hm => ?_
  exact (hl.methods.numberAt_eq h.methods h'.methods (hsettled m hm)).symm

theorem Loaded.moduleName (h : Loaded i c) (name : String) :
    ((numberAt c.classes name).bind c.classSymbol?).bind (fun p => p.record.moduleName) =
      (numberAt c.classes name).bind fun _ =>
        (i.classes.get? name).bind ClassRecord.moduleName := by
  cases hk : numberAt c.classes name with
  | none => rfl
  | some k =>
      obtain ⟨s, hs, hr⟩ := h.classSymbol hk
      simp only [Option.bind_some, hs, hr]

theorem MethodLinked.later (hl : Later c c') (h : Loaded i c) (h' : Loaded i c')
    {s : MethodSymbol} (hs : MethodLinked c s) : MethodLinked c' s := by
  obtain ⟨hparent, hsettled, hmodule⟩ := hs
  have hnumber := hl.classes.numberAt_eq h.classes h'.classes hsettled
  refine ⟨by rw [hparent, hnumber], hl.classes.settled hsettled, ?_⟩
  rw [hmodule, hparent, h.moduleName, ← hnumber, h'.moduleName]

/-- A later cache is linked if each closed symbol of it was there closed or is linked itself. -/
theorem Linked.later {oc om oc' om' : List Nat} (hlink : Linked oc om c) (hl : Later c c')
    (h : Loaded i c) (h' : Loaded i c')
    (hclasses : ∀ name k s, numberAt c'.classes name = some k → k ∉ oc' →
      c'.classSymbol? k = some s →
      (numberAt c.classes name = some k ∧ k ∉ oc ∧ c.classSymbol? k = some s) ∨
        ClassLinked c' name s)
    (hmethods : ∀ name k s, numberAt c'.methods name = some k → k ∉ om' →
      c'.methodSymbol? k = some s →
      (numberAt c.methods name = some k ∧ k ∉ om ∧ c.methodSymbol? k = some s) ∨
        MethodLinked c' s) : Linked oc' om' c' := by
  constructor
  · intro name k s hk ho hs
    rcases hclasses name k s hk ho hs with ⟨hk', ho', hs'⟩ | hlinked
    · exact (hlink.classes name k s hk' ho' hs').later hl h h'
    · exact hlinked
  · intro name k s hk ho hs
    rcases hmethods name k s hk ho hs with ⟨hk', ho', hs'⟩ | hlinked
    · exact (hlink.methods name k s hk' ho' hs').later hl h h'
    · exact hlinked

/-- The cache stands for the index, and all its symbols are linked but the open ones. -/
structure Sound (i : Index) (openClasses openMethods : List Nat) (c : SymbolCache) : Prop where
  loaded : Loaded i c
  linked : Linked openClasses openMethods c

variable {oc om : List Nat} {name : String}

theorem Sound.noteClass (h : Sound i oc om c) (hname : c.classes.get? name = none) :
    Sound i oc om { c with classes := c.classes.insert name .unknown } ∧
      Later c { c with classes := c.classes.insert name .unknown } := by
  obtain ⟨hh, hg, hnumber⟩ := h.loaded.classes.insert_unknown hname
  have h' : Loaded i { c with classes := c.classes.insert name .unknown } :=
    ⟨hh, h.loaded.methods, h.loaded.classPurposes, h.loaded.methodPurposes⟩
  have hl : Later c { c with classes := c.classes.insert name .unknown } := ⟨hg, .refl _⟩
  refine ⟨⟨h', h.linked.later hl h.loaded h' ?_ ?_⟩, hl⟩
  · intro other k s hk ho hs
    exact .inl ⟨(hnumber other).symm.trans hk, ho, hs⟩
  · intro other k s hk ho hs
    exact .inl ⟨hk, ho, hs⟩

theorem Sound.noteMethod (h : Sound i oc om c) (hname : c.methods.get? name = none) :
    Sound i oc om { c with methods := c.methods.insert name .unknown } ∧
      Later c { c with methods := c.methods.insert name .unknown } := by
  obtain ⟨hh, hg, hnumber⟩ := h.loaded.methods.insert_unknown hname
  have h' : Loaded i { c with methods := c.methods.insert name .unknown } :=
    ⟨h.loaded.classes, hh, h.loaded.classPurposes, h.loaded.methodPurposes⟩
  have hl : Later c { c with methods := c.methods.insert name .unknown } := ⟨.refl _, hg⟩
  refine ⟨⟨h', h.linked.later hl h.loaded h' ?_ ?_⟩, hl⟩
  · intro other k s hk ho hs
    exact .inl ⟨hk, ho, hs⟩
  · intro other k s hk ho hs
    exact .inl ⟨(hnumber other).symm.trans hk, ho, hs⟩

/-- A class symbol enters the cache open, and uses up a record. -/
theorem Sound.enterClass (h : Sound i oc om c) {r : ClassRecord}
    (hname : c.classes.get? name = some (.record r)) :
    Sound i (c.classSymbols.length :: oc) om (c.enterClass name r) ∧
      Later c (c.enterClass name r) ∧ (c.enterClass name r).pending + 1 = c.pending ∧
      numberAt (c.enterClass name r).classes name = some c.classSymbols.length := by
  obtain ⟨hh, hg, hcount⟩ := h.loaded.classes.insert_symbol hname
  rw [List.length_map] at hh hg hcount
  have h' : Loaded i (c.enterClass name r) :=
    ⟨by simpa [SymbolCache.enterClass] using hh, h.loaded.methods, h.loaded.classPurposes,
      h.loaded.methodPurposes⟩
  have hl : Later c (c.enterClass name r) := ⟨hg, .refl _⟩
  refine ⟨⟨h', h.linked.later hl h.loaded h' ?_ ?_⟩, hl, ?_, ?_⟩
  · intro other k s hk ho hs
    obtain ⟨hne, hoc⟩ := not_or.1 (mt List.mem_cons.2 ho)
    rw [SymbolCache.enterClass, numberAt_insert] at hk
    split at hk
    · exact absurd (Option.some.inj hk).symm hne
    · obtain ⟨t, ht, -⟩ := h.loaded.classSymbol hk
      have hlt : k < c.classSymbols.length := (List.getElem?_eq_some_iff.1 ht).1
      refine .inl ⟨hk, hoc, ?_⟩
      rw [← hs]
      exact (List.getElem?_append_left hlt).symm
  · intro other k s hk ho hs
    exact .inl ⟨hk, ho, hs⟩
  · simp only [pending, SymbolCache.enterClass]
    omega
  · rw [SymbolCache.enterClass, numberAt_insert, if_pos rfl, Slot.number?]

theorem Sound.enterMethod (h : Sound i oc om c) {r : MethodRecord}
    (hname : c.methods.get? name = some (.record r)) :
    Sound i oc (c.methodSymbols.length :: om) (c.enterMethod name r) ∧
      Later c (c.enterMethod name r) ∧ (c.enterMethod name r).pending + 1 = c.pending ∧
      numberAt (c.enterMethod name r).methods name = some c.methodSymbols.length := by
  obtain ⟨hh, hg, hcount⟩ := h.loaded.methods.insert_symbol hname
  rw [List.length_map] at hh hg hcount
  have h' : Loaded i (c.enterMethod name r) :=
    ⟨h.loaded.classes, by simpa [SymbolCache.enterMethod] using hh, h.loaded.classPurposes,
      h.loaded.methodPurposes⟩
  have hl : Later c (c.enterMethod name r) := ⟨.refl _, hg⟩
  refine ⟨⟨h', h.linked.later hl h.loaded h' ?_ ?_⟩, hl, ?_, ?_⟩
  · intro other k s hk ho hs
    exact .inl ⟨hk, ho, hs⟩
  · intro other k s hk ho hs
    obtain ⟨hne, hom⟩ := not_or.1 (mt List.mem_cons.2 ho)
    rw [SymbolCache.enterMethod, numberAt_insert] at hk
    split at hk
    · exact absurd (Option.some.inj hk).symm hne
    · obtain ⟨t, ht, -⟩ := h.loaded.methodSymbol hk
      have hlt : k < c.methodSymbols.length := (List.getElem?_eq_some_iff.1 ht).1
      refine .inl ⟨hk, hom, ?_⟩
      rw [← hs]
      exact (List.getElem?_append_left hlt).symm
  · simp only [pending, SymbolCache.enterMethod]
    omega
  · rw [SymbolCache.enterMethod, numberAt_insert, if_pos rfl, Slot.number?]

theorem map_modify_of_eq {α β : Type} {f : α → β} {g : α → α} (h : ∀ a, f (g a) = f a)
    (l : List α) (k : Nat) : (l.modify k g).map f = l.map f := by
  refine List.ext_getElem? fun n => ?_
  rw [List.getElem?_map, List.getElem?_map, List.getElem?_modify]
  by_cases hkn : k = n
  · cases l[n]? <;> simp [hkn, h]
  · simp [hkn]

/-- Attaching the symbols of its methods closes a class symbol. -/
theorem Sound.attachMethods {k : Nat} (h : Sound i (k :: oc) om c) {r : ClassRecord}
    (hk : numberAt c.classes name = some k) (hr : i.classes.get? name = some r)
    (hsettled : ∀ m ∈ r.methodNames, Settled c.methods (joinMethodName name m)) :
    Sound i oc om (c.attachMethods k
      (r.methodNames.filterMap fun m => numberAt c.methods (joinMethodName name m))) ∧
      Later c (c.attachMethods k
        (r.methodNames.filterMap fun m => numberAt c.methods (joinMethodName name m))) := by
  generalize hms : (r.methodNames.filterMap fun m =>
    numberAt c.methods (joinMethodName name m)) = ms
  have hget : ∀ n, (c.attachMethods k ms).classSymbol? n =
      (c.classSymbol? n).map fun s => if k = n then { s with exposedMethods := ms } else s := by
    intro n
    exact List.getElem?_modify _ k c.classSymbols n
  have hrecords : (c.attachMethods k ms).classSymbols.map ClassSymbol.record =
      c.classSymbols.map ClassSymbol.record := by
    refine map_modify_of_eq ?_ c.classSymbols k
    intro s
    rfl
  have h' : Loaded i (c.attachMethods k ms) :=
    ⟨by rw [hrecords]; exact h.loaded.classes, h.loaded.methods, h.loaded.classPurposes,
      h.loaded.methodPurposes⟩
  have hl : Later c (c.attachMethods k ms) := ⟨.refl _, .refl _⟩
  refine ⟨⟨h', h.linked.later hl h.loaded h' ?_ ?_⟩, hl⟩
  · intro other n s hn ho hs
    obtain ⟨t, ht, hrecord⟩ := h.loaded.classSymbol hn
    rw [hget, ht, Option.map_some, Option.some.injEq] at hs
    by_cases hkn : k = n
    · -- The symbol that is closed now: its name is the one that was looked up.
      right
      subst hkn
      obtain rfl : other = name := h.loaded.classes.inj other name k hn hk
      obtain rfl : t.record = r := Option.some.inj (hrecord.symm.trans hr)
      rw [if_pos rfl] at hs
      subst hs
      exact ⟨hms.symm, hsettled⟩
    · left
      rw [if_neg hkn] at hs
      subst hs
      exact ⟨hn, by simp [ho, Ne.symm hkn], ht⟩
  · intro other n s hn ho hs
    exact .inl ⟨hn, ho, hs⟩

theorem Sound.attachParent {k : Nat} (h : Sound i oc (k :: om) c) {r : MethodRecord}
    (hk : numberAt c.methods name = some k) (hr : i.methods.get? name = some r)
    (hsettled : Settled c.classes r.className) :
    Sound i oc om (c.attachParent k (numberAt c.classes r.className)) ∧
      Later c (c.attachParent k (numberAt c.classes r.className)) := by
  generalize hparent : numberAt c.classes r.className = parent
  have hget : ∀ n, (c.attachParent k parent).methodSymbol? n =
      (c.methodSymbol? n).map fun s => if k = n then
        { s with
          parent := parent
          moduleName := (parent.bind c.classSymbol?).bind fun p => p.record.moduleName }
        else s := by
    intro n
    exact List.getElem?_modify _ k c.methodSymbols n
  have hrecords : (c.attachParent k parent).methodSymbols.map MethodSymbol.record =
      c.methodSymbols.map MethodSymbol.record := by
    refine map_modify_of_eq ?_ c.methodSymbols k
    intro s
    rfl
  have h' : Loaded i (c.attachParent k parent) :=
    ⟨h.loaded.classes, by rw [hrecords]; exact h.loaded.methods, h.loaded.classPurposes,
      h.loaded.methodPurposes⟩
  have hl : Later c (c.attachParent k parent) := ⟨.refl _, .refl _⟩
  refine ⟨⟨h', h.linked.later hl h.loaded h' ?_ ?_⟩, hl⟩
  · intro other n s hn ho hs
    exact .inl ⟨hn, ho, hs⟩
  · intro other n s hn ho hs
    obtain ⟨t, ht, hrecord⟩ := h.loaded.methodSymbol hn
    rw [hget, ht, Option.map_some, Option.some.injEq] at hs
    by_cases hkn : k = n
    · right
      subst hkn
      obtain rfl : other = name := h.loaded.methods.inj other name k hn hk
      obtain rfl : t.record = r := Option.some.inj (hrecord.symm.trans hr)
      rw [if_pos rfl] at hs
      subst hs
      exact ⟨hparent.symm, hsettled, rfl⟩
    · left
      rw [if_neg hkn] at hs
      subst hs
      exact ⟨hn, by simp [ho, Ne.symm hkn], ht⟩

/-- What a look-up of a class does to a cache: whatever it enters it also links. -/
def ClassLookup (i : Index) (oc om : List Nat) (name : String) (c : SymbolCache)
    (result : Option Nat × SymbolCache) : Prop :=
  Sound i oc om result.2 ∧ Later c result.2 ∧ Settled result.2.classes name ∧
    result.1 = numberAt result.2.classes name

def MethodLookup (i : Index) (oc om : List Nat) (name : String) (c : SymbolCache)
    (result : Option Nat × SymbolCache) : Prop :=
  Sound i oc om result.2 ∧ Later c result.2 ∧ Settled result.2.methods name ∧
    result.1 = numberAt result.2.methods name

def lookUpListed (fuel : Nat) (className : String) (p : List Nat × SymbolCache) (m : String) :
    List Nat × SymbolCache :=
  match methodWithin fuel (joinMethodName className m) p.2 with
  | (some k, c) => (p.1 ++ [k], c)
  | (none, c) => (p.1, c)

theorem classWithin_record (fuel : Nat) {r : ClassRecord}
    (h : c.classes.get? name = some (.record r)) :
    classWithin (fuel + 1) name c = (some c.classSymbols.length,
      (r.methodNames.foldl (lookUpListed fuel name) ([], c.enterClass name r)).2.attachMethods
        c.classSymbols.length
        (r.methodNames.foldl (lookUpListed fuel name) ([], c.enterClass name r)).1) := by
  simp only [classWithin, h]
  rfl

theorem methodWithin_record (fuel : Nat) {r : MethodRecord}
    (h : c.methods.get? name = some (.record r)) :
    methodWithin (fuel + 1) name c = (some c.methodSymbols.length,
      (classWithin fuel r.className (c.enterMethod name r)).2.attachParent c.methodSymbols.length
        (classWithin fuel r.className (c.enterMethod name r)).1) := by
  simp only [methodWithin, h]

theorem foldl_lookUpListed {fuel : Nat}
    (hlookup : ∀ name c, Sound i oc om c → c.pending < fuel →
      MethodLookup i oc om name c (methodWithin fuel name c)) (className : String)
    (ms : List String) (found : List Nat) (h : Sound i oc om c) (hc : c.pending < fuel) :
    ∃ c', ms.foldl (lookUpListed fuel className) (found, c) =
        (found ++ ms.filterMap fun m => numberAt c'.methods (joinMethodName className m), c') ∧
      Sound i oc om c' ∧ Later c c' ∧
      ∀ m ∈ ms, Settled c'.methods (joinMethodName className m) := by
  induction ms generalizing found c with
  | nil => exact ⟨c, by simp, h, .refl c, by simp⟩
  | cons m ms ih =>
      obtain ⟨hsound, hlater, hsettled, hnumber⟩ := hlookup (joinMethodName className m) c h hc
      rcases hres : methodWithin fuel (joinMethodName className m) c with ⟨k, d⟩
      rw [hres] at hsound hlater hsettled hnumber
      dsimp only at hsound hlater hsettled hnumber
      obtain ⟨c', hfold, hsound', hlater', hsettled'⟩ := ih (found ++ k.toList) hsound
        (Nat.lt_of_le_of_lt hlater.pending_le hc)
      -- The number found for the first name is still its number after the others.
      have hkeep : numberAt c'.methods (joinMethodName className m) = k := by
        rw [hlater'.methods.numberAt_eq hsound.loaded.methods hsound'.loaded.methods hsettled,
          hnumber]
      refine ⟨c', ?_, hsound', hlater.trans hlater', ?_⟩
      · cases k with
        | none => simpa [lookUpListed, hres, hkeep] using hfold
        | some k => simpa [lookUpListed, hres, hkeep] using hfold
      · intro n hn
        rcases List.mem_cons.1 hn with rfl | hn
        · exact hlater'.methods.settled hsettled
        · exact hsettled' n hn

theorem classLookup_succ {fuel : Nat}
    (ih : ∀ oc om name c, Sound i oc om c → c.pending < fuel →
      MethodLookup i oc om name c (methodWithin fuel name c))
    (h : Sound i oc om c) (hc : c.pending < fuel + 1) :
    ClassLookup i oc om name c (classWithin (fuel + 1) name c) := by
  cases hslot : c.classes.get? name with
  | none =>
      obtain ⟨hsound, hlater⟩ := h.noteClass hslot
      have hnoted : (c.classes.insert name .unknown).get? name = some .unknown := by
        rw [Table.get?_insert, if_pos rfl]
      obtain ⟨hsettled, hnumber⟩ := unknown_of_get? hnoted
      simp only [classWithin, hslot]
      exact ⟨hsound, hlater, hsettled, hnumber.symm⟩
  | some slot =>
      cases slot with
      | unknown =>
          obtain ⟨hsettled, hnumber⟩ := unknown_of_get? hslot
          simp only [classWithin, hslot]
          exact ⟨h, .refl c, hsettled, hnumber.symm⟩
      | symbol k =>
          have hk := numberAt_eq_some_iff.2 hslot
          simp only [classWithin, hslot]
          exact ⟨h, .refl c, settled_of_numberAt hk, hk.symm⟩
      | record r =>
          -- The new symbol is open while its methods are looked up, and they use up less fuel:
          -- it is no record any more.
          obtain ⟨hsound, hlater, hpending, hnumber⟩ := h.enterClass hslot
          have hbound : (c.enterClass name r).pending < fuel := by omega
          obtain ⟨d, hfold, hsound', hlater', hsettled⟩ :=
            foldl_lookUpListed (ih _ _) name r.methodNames [] hsound hbound
          have hk := hlater'.classes.number name _ hnumber
          obtain ⟨hclosed, hattached⟩ :=
            hsound'.attachMethods hk (h.loaded.classes.record name r hslot) hsettled
          rw [classWithin_record fuel hslot, hfold, List.nil_append]
          exact ⟨hclosed, hlater.trans (hlater'.trans hattached), settled_of_numberAt hk, hk.symm⟩

theorem methodLookup_succ {fuel : Nat}
    (ih : ∀ oc om name c, Sound i oc om c → c.pending < fuel →
      ClassLookup i oc om name c (classWithin fuel name c))
    (h : Sound i oc om c) (hc : c.pending < fuel + 1) :
    MethodLookup i oc om name c (methodWithin (fuel + 1) name c) := by
  cases hslot : c.methods.get? name with
  | none =>
      obtain ⟨hsound, hlater⟩ := h.noteMethod hslot
      have hnoted : (c.methods.insert name .unknown).get? name = some .unknown := by
        rw [Table.get?_insert, if_pos rfl]
      obtain ⟨hsettled, hnumber⟩ := unknown_of_get? hnoted
      simp only [methodWithin, hslot]
      exact ⟨hsound, hlater, hsettled, hnumber.symm⟩
  | some slot =>
      cases slot with
      | unknown =>
          obtain ⟨hsettled, hnumber⟩ := unknown_of_get? hslot
          simp only [methodWithin, hslot]
          exact ⟨h, .refl c, hsettled, hnumber.symm⟩
      | symbol k =>
          have hk := numberAt_eq_some_iff.2 hslot
          simp only [methodWithin, hslot]
          exact ⟨h, .refl c, settled_of_numberAt hk, hk.symm⟩
      | record r =>
          obtain ⟨hsound, hlater, hpending, hnumber⟩ := h.enterMethod hslot
          have hbound : (c.enterMethod name r).pending < fuel := by omega
          obtain ⟨hsound', hlater', hsettled, hparent⟩ := ih _ _ r.className _ hsound hbound
          have hk := hlater'.methods.number name _ hnumber
          obtain ⟨hclosed, hattached⟩ :=
            hsound'.attachParent hk (h.loaded.methods.record name r hslot) hsettled
          rw [methodWithin_record fuel hslot, hparent]
          exact ⟨hclosed, hlater.trans (hlater'.trans hattached), settled_of_numberAt hk, hk.symm⟩

/-- With fuel for the records that are left, a look-up links what it enters, whatever is open. -/
theorem lookup_within (fuel : Nat) :
    (∀ oc om name c, Sound i oc om c → c.pending < fuel →
      ClassLookup i oc om name c (classWithin fuel name c)) ∧
    (∀ oc om name c, Sound i oc om c → c.pending < fuel →
      MethodLookup i oc om name c (methodWithin fuel name c)) := by
  induction fuel with
  | zero =>
      constructor
      · intro oc om name c _ hc
        exact absurd hc (Nat.not_lt_zero _)
      · intro oc om name c _ hc
        exact absurd hc (Nat.not_lt_zero _)
  | succ fuel ih =>
      obtain ⟨ihclass, ihmethod⟩ := ih
      exact ⟨fun _ _ _ _ => classLookup_succ ihmethod, fun _ _ _ _ => methodLookup_succ ihclass⟩

end Exposure.SymbolCache
