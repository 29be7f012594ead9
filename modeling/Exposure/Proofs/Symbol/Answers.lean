import Exposure.Proofs.Symbol.Navigation
import Mathlib.Data.List.Induction

/-!
Look-ups do not show in what the cache answers. A name keeps the symbol that it was given, or keeps
having none; no symbol is given to two names; and every other question is answered as the index
answers it, whatever was looked up before.
-/
namespace Exposure

/-- A question that looks nothing up. -/
inductive Question where
  | classNames
  | methodNames
  | classesUnder (pattern : String) (ancestors : Bool)
  | methodsUnder (pattern : String) (ancestors : Bool)
  | displayNameOfClass (name : String)
  | displayNameOfMethod (name : String)
  | displayName (name : String)

inductive Reply where
  | names (names : List String)
  | hits (result : Except PurposeTree.Fault (List PurposeTree.Hit))
  | text (text : Option String)

def SymbolCache.reply (c : SymbolCache) : Question → Reply
  | .classNames => .names c.classNames
  | .methodNames => .names c.methodNames
  | .classesUnder pattern ancestors => .hits (c.classPurposes.search pattern ancestors)
  | .methodsUnder pattern ancestors => .hits (c.methodPurposes.search pattern ancestors)
  | .displayNameOfClass name => .text (c.displayNameOfClass name)
  | .displayNameOfMethod name => .text (c.displayNameOfMethod name)
  | .displayName name => .text (c.displayName name)

namespace Index

variable (i : Index)

def displayNameOfClass (name : String) : Option String :=
  (i.classes.get? name).bind ClassRecord.displayName

def displayNameOfMethod (name : String) : Option String :=
  (i.methods.get? name).bind MethodRecord.displayName

/-- What the records and trees of the index themselves say. -/
def reply : Question → Reply
  | .classNames => .names i.classes.keys
  | .methodNames => .names i.methods.keys
  | .classesUnder pattern ancestors => .hits (i.classPurposes.search pattern ancestors)
  | .methodsUnder pattern ancestors => .hits (i.methodPurposes.search pattern ancestors)
  | .displayNameOfClass name => .text (i.displayNameOfClass name)
  | .displayNameOfMethod name => .text (i.displayNameOfMethod name)
  | .displayName name => .text <|
    if (Text.cutFirst methodSeparator.toList name.toList).isSome then i.displayNameOfMethod name
    else i.displayNameOfClass name

end Index

namespace SymbolCache

variable {i : Index} {c c' : SymbolCache}

/-- The names that the cache was made with. -/
def listedNames (c : SymbolCache) : List String × List String := (c.classNames, c.methodNames)

theorem listedNames_foldl {fuel : Nat}
    (h : ∀ name c, (methodWithin fuel name c).2.listedNames = c.listedNames) (className : String)
    (ms : List String) (p : List Nat × SymbolCache) :
    (ms.foldl (lookUpListed fuel className) p).2.listedNames = p.2.listedNames := by
  induction ms generalizing p with
  | nil => rfl
  | cons m ms ih =>
      have hm := h (joinMethodName className m) p.2
      rw [List.foldl_cons, ih, lookUpListed]
      rcases hres : methodWithin fuel (joinMethodName className m) p.2 with ⟨k, d⟩
      rw [hres] at hm
      cases k <;> exact hm

theorem listedNames_within (fuel : Nat) :
    (∀ name c, (classWithin fuel name c).2.listedNames = c.listedNames) ∧
    ∀ name c, (methodWithin fuel name c).2.listedNames = c.listedNames := by
  induction fuel with
  | zero => exact ⟨fun _ _ => rfl, fun _ _ => rfl⟩
  | succ fuel ih =>
      obtain ⟨ihclass, ihmethod⟩ := ih
      refine ⟨fun name c => ?_, fun name c => ?_⟩
      · cases hslot : c.classes.get? name with
        | none => simp only [classWithin, hslot, listedNames]
        | some slot =>
            cases slot with
            | unknown | symbol k => simp only [classWithin, hslot]
            | record r =>
                rw [classWithin_record fuel hslot]
                exact listedNames_foldl ihmethod name r.methodNames _
      · cases hslot : c.methods.get? name with
        | none => simp only [methodWithin, hslot, listedNames]
        | some slot =>
            cases slot with
            | unknown | symbol k => simp only [methodWithin, hslot]
            | record r =>
                have hparent := ihclass r.className (c.enterMethod name r)
                simp only [methodWithin, hslot]
                exact hparent

theorem listedNames_lookUp (e : Entity) (c : SymbolCache) :
    (c.lookUp e).2.listedNames = c.listedNames := by
  cases e with
  | ofClass name => exact (listedNames_within _).1 name c
  | ofMethod name => exact (listedNames_within _).2 name c

theorem after_append (i : Index) (calls more : List Call) :
    after i (calls ++ more) = more.foldl call (after i calls) :=
  List.foldl_append

theorem listedNames_after (i : Index) (calls : List Call) :
    (after i calls).listedNames = (i.classes.keys, i.methods.keys) := by
  induction calls using List.reverseRecOn with
  | nil => rfl
  | append_singleton calls call ih =>
      rw [after_append]
      cases call with
      | lookUp e => exact (listedNames_lookUp e _).trans ih
      | read => exact ih

theorem later_lookUp (h : Sound i [] [] c) (e : Entity) : Later c (c.lookUp e).2 := by
  cases e with
  | ofClass name => exact (exposedClass_spec h name).2.1
  | ofMethod name => exact (exposedMethod_spec h name).2.1

theorem later_after (i : Index) (calls more : List Call) :
    Later (after i calls) (after i (calls ++ more)) := by
  induction more using List.reverseRecOn with
  | nil => simpa using Later.refl (after i calls)
  | append_singleton more call ih =>
      rw [← List.append_assoc, after_append]
      cases call with
      | lookUp e => exact ih.trans (later_lookUp (sound_after i _) e)
      | read => exact ih

theorem Later.ref?_eq (h : Later c c') {e : Entity} {r : SymbolRef} (hr : c.ref? e = some r) :
    c'.ref? e = some r := by
  cases e with
  | ofClass name =>
      obtain ⟨k, hk, rfl⟩ := Option.map_eq_some_iff.1 hr
      exact congrArg (Option.map SymbolRef.ofClass) (h.classes.number name k hk)
  | ofMethod name =>
      obtain ⟨k, hk, rfl⟩ := Option.map_eq_some_iff.1 hr
      exact congrArg (Option.map SymbolRef.ofMethod) (h.methods.number name k hk)

/-- A name with a symbol is looked up without any change. -/
theorem lookUp_of_ref? {e : Entity} {r : SymbolRef} (h : c.ref? e = some r) :
    c.lookUp e = (some r, c) := by
  cases e with
  | ofClass name =>
      obtain ⟨k, hk, rfl⟩ := Option.map_eq_some_iff.1 h
      simp only [lookUp, exposedClass_of_numberAt hk, Option.map_some]
  | ofMethod name =>
      obtain ⟨k, hk, rfl⟩ := Option.map_eq_some_iff.1 h
      simp only [lookUp, exposedMethod_of_numberAt hk, Option.map_some]

/-- What a look-up has given stands in the cache after any further calls. -/
theorem ref?_after {calls : List Call} {e : Entity} {r : SymbolRef}
    (h : ((after i calls).lookUp e).1 = some r) (more : List Call) :
    (after i (calls ++ .lookUp e :: more)).ref? e = some r := by
  have hfound : ((after i calls).lookUp e).2.ref? e = some r := by
    rw [← (lookUp_eq_ref? (sound_after i calls) e).1, h]
  have hcall : after i (calls ++ [.lookUp e]) = ((after i calls).lookUp e).2 :=
    after_append i calls [.lookUp e]
  rw [← hcall] at hfound
  rw [← List.singleton_append, ← List.append_assoc]
  exact (later_after i _ more).ref?_eq hfound

/-- The record of a name, wherever the slots have it by now. -/
def recordAt {ρ : Type} (slots : Table (Slot ρ)) (numbered : List ρ) (name : String) : Option ρ :=
  match slots.get? name with
  | some (.record r) => some r
  | some (.symbol k) => numbered[k]?
  | _ => none

/-- A name with a record is never noted as unknown. -/
theorem known_of_record {ρ : Type} {records : Table ρ} {slots : Table (Slot ρ)}
    {numbered : List ρ} (h : Hydrates records slots numbered) {name : String} {r : ρ}
    (hr : records.get? name = some r) :
    slots.get? name ≠ none ∧ slots.get? name ≠ some .unknown := by
  rcases h.kept name r hr with hslot | ⟨k, hk⟩
  · simp [hslot]
  · simp [numberAt_eq_some_iff.1 hk]

theorem recordAt_eq {ρ : Type} {records : Table ρ} {slots : Table (Slot ρ)} {numbered : List ρ}
    (h : Hydrates records slots numbered) (name : String) :
    recordAt slots numbered name = records.get? name := by
  have hmissing (hr : ∀ r, records.get? name ≠ some r) : records.get? name = none := by
    rwa [← Option.eq_none_iff_forall_ne_some] at hr
  rw [recordAt]
  cases hslot : slots.get? name with
  | none => exact (hmissing fun r hr => (known_of_record h hr).1 hslot).symm
  | some slot =>
      cases slot with
      | record r => exact (h.record name r hslot).symm
      | symbol k =>
          obtain ⟨r, hr, hk⟩ := h.symbol name k (numberAt_eq_some_iff.2 hslot)
          exact hk.trans hr.symm
      | unknown => exact (hmissing fun r hr => (known_of_record h hr).2 hslot).symm

theorem Loaded.displayNameOfClass_eq (h : Loaded i c) (name : String) :
    c.displayNameOfClass name = i.displayNameOfClass name := by
  rw [Index.displayNameOfClass, ← recordAt_eq h.classes, displayNameOfClass, recordAt]
  rcases c.classes.get? name with _ | (_ | k | _)
  case some.symbol =>
    simp only [classSymbol?, List.getElem?_map, Option.bind_map]
    rfl
  all_goals rfl

theorem Loaded.displayNameOfMethod_eq (h : Loaded i c) (name : String) :
    c.displayNameOfMethod name = i.displayNameOfMethod name := by
  rw [Index.displayNameOfMethod, ← recordAt_eq h.methods, displayNameOfMethod, recordAt]
  rcases c.methods.get? name with _ | (_ | k | _)
  case some.symbol =>
    simp only [methodSymbol?, List.getElem?_map, Option.bind_map]
    rfl
  all_goals rfl

theorem reply_after (i : Index) (calls : List Call) (q : Question) :
    (after i calls).reply q = i.reply q := by
  have h := (sound_after i calls).loaded
  obtain ⟨hclassNames, hmethodNames⟩ := Prod.mk.inj (listedNames_after i calls)
  cases q with
  | classNames => rw [reply, hclassNames, Index.reply]
  | methodNames => rw [reply, hmethodNames, Index.reply]
  | classesUnder pattern ancestors => rw [reply, h.classPurposes, Index.reply]
  | methodsUnder pattern ancestors => rw [reply, h.methodPurposes, Index.reply]
  | displayNameOfClass name => rw [reply, h.displayNameOfClass_eq, Index.reply]
  | displayNameOfMethod name => rw [reply, h.displayNameOfMethod_eq, Index.reply]
  | displayName name =>
      rw [reply, displayName, h.displayNameOfMethod_eq, h.displayNameOfClass_eq, Index.reply]

/-- The cache has noted that the name has no record. -/
def IsUnknown (c : SymbolCache) : Entity → Prop
  | .ofClass name => c.classes.get? name = some .unknown
  | .ofMethod name => c.methods.get? name = some .unknown

theorem not_isUnknown (h : Loaded i c) {e : Entity} (he : i.has e = true) : ¬c.IsUnknown e := by
  cases e with
  | ofClass name =>
      obtain ⟨r, hr⟩ := Option.isSome_iff_exists.1 he
      exact (known_of_record h.classes hr).2
  | ofMethod name =>
      obtain ⟨r, hr⟩ := Option.isSome_iff_exists.1 he
      exact (known_of_record h.methods hr).2

/-- After any calls: what a look-up gives, it gives again whenever it is repeated, and no look-up of
another name ever does. A name without a record has no symbol; one with a record has one, and is not
noted as unknown. All other questions are answered by the index alone. -/
theorem answers_after (i : Index) (calls : List Call) :
    (∀ e r, ((after i calls).lookUp e).1 = some r → ∀ more,
      ((after i (calls ++ .lookUp e :: more)).lookUp e).1 = some r ∧
      ∀ other, other ≠ e →
        ((after i (calls ++ .lookUp e :: more)).lookUp other).1 ≠ some r) ∧
    (∀ e, i.has e = false → ((after i calls).lookUp e).1 = none) ∧
    (∀ e, i.has e = true →
      ((after i calls).lookUp e).1.isSome ∧ ¬(after i calls).IsUnknown e) ∧
    ∀ q, (after i calls).reply q = i.reply q := by
  have hsome (e : Entity) : ((after i calls).lookUp e).1.isSome = i.has e :=
    (lookUp_eq_ref? (sound_after i calls) e).2
  refine ⟨fun e r hr more => ⟨?_, fun other hne hother => hne ?_⟩, fun e he => ?_, fun e he => ?_,
    reply_after i calls⟩
  · rw [lookUp_of_ref? (ref?_after hr more)]
  · -- Looking the other name up leaves the first one its symbol.
    have hsound := sound_after i (calls ++ .lookUp e :: more)
    have hfirst := (later_lookUp hsound other).ref?_eq (ref?_after hr more)
    rw [(lookUp_eq_ref? hsound other).1] at hother
    exact ref?_inj (sound_lookUp hsound other).loaded hother hfirst
  · rw [← Option.not_isSome_iff_eq_none, hsome, he]
    exact Bool.false_ne_true
  · exact ⟨(hsome e).trans he, not_isUnknown (sound_after i calls).loaded he⟩

end SymbolCache
end Exposure
