import Exposure.Discovery.Context
import Exposure.Proofs.Class.MethodRecord

/-!
Methods of a class that was found in a discovery, looked up by a filter. The look-up and the
reflection go by the same filter, so that they agree on every method, but for the last part of it:
only the reflection leaves out methods without a purpose when the filter asks for one.
-/
namespace Exposure.Discovery

open Reflection

variable {c : Class} {options : MethodFilter}

/-- Methods with different names are found in the order in which the class declares them. -/
theorem methodsOf_eq (hdistinct : (c.declaredMethods.map (·.name)).Nodup) :
    methodsOf c c.qualifiedName options = (c.declaredMethods.filter (·.passes options)).map
      fun m => (joinMethodName c.qualifiedName m.name, m) := by
  have hnames : ((c.declaredMethods.filter (·.passes options)).map (·.name)).Nodup :=
    hdistinct.sublist (List.filter_sublist.map _)
  have hkeys : ((c.declaredMethods.filter (·.passes options)).map fun m =>
      joinMethodName c.qualifiedName m.name).Nodup := by
    rw [List.Nodup, List.pairwise_map] at hnames ⊢
    exact hnames.imp fun hne heq => hne (joinMethodName_right_inj.1 heq)
  exact Assoc.foldl_put_of_nodup _ id hkeys

/-- The records of a class are those of the methods that are found with the same filter, hooks left
out, if these have a purpose or the filter asks for none. -/
theorem recorded_of_found (hdistinct : (c.declaredMethods.map (·.name)).Nodup) :
    (methodsWith c options).map (·.record.qualifiedName) =
      (((methodsOf c c.qualifiedName options).filter fun e => !e.2.isHook).filter
        fun e => e.2.meetsPurpose options).map (·.1) := by
  rw [qualifiedNames_methodsWith, methodsOf_eq hdistinct, List.filter_map, List.filter_map,
    List.map_map]
  rfl

theorem filter_eq_iff {α : Type} {xs : List α} {p : α → Bool} {f : α → String} :
    (xs.filter p).map f = xs.map f ↔ ∀ x ∈ xs, p x = true := by
  constructor
  · intro h
    apply List.length_filter_eq_length_iff.1
    simpa using congrArg List.length h
  · intro h
    rw [List.filter_eq_self.2 h]

/-- What a look-up of all methods of an exposed class finds by the filter that its hook gives, and
what the reflection of the class records: the same, in the same order, but for the hooks and, if the
filter asks for a purpose, the methods that have none. -/
theorem recorded_eq_found {run : Run} {registry : Class.Registry} {v : Value} {d : Discovery}
    (hexposes : c.exposesMethods registry = true) (hhook : c.callHook run filterHook = .ok v)
    (hfilter : v.toFilter = .ok options) (hdistinct : (c.declaredMethods.map (·.name)).Nodup)
    (hclass : d.class? c.qualifiedName = some c) :
    ∃ found records, d.findMethods c.qualifiedName options false = some found ∧
      Reflection.methodsOf run registry c = .ok records ∧
      (∀ source moduleName r, ofClass run registry c source moduleName = .ok (some r) →
        r.methods = records) ∧
      records.map (·.record.qualifiedName) = ((found.filter fun e => !e.2.isHook).filter
        fun e => e.2.meetsPurpose options).map (·.1) ∧
      (records.map (·.record.qualifiedName) = (found.filter fun e => !e.2.isHook).map (·.1) ↔
        (options.meets .purposedOnly = true →
          ∀ e ∈ found, e.2.isHook = true ∨ e.2.hasPurpose = true)) := by
  have hrecords := methodsOf_eq_ok hexposes hhook hfilter
  have hnames := @recorded_of_found c options hdistinct
  refine ⟨methodsOf c c.qualifiedName options, methodsWith c options, ?_, hrecords,
    fun source moduleName r hr => ?_, hnames, ?_⟩
  · rw [findMethods, hclass]
    rfl
  · exact (Except.ok.inj (hrecords.symm.trans (methods_ofClass hr))).symm
  · rw [hnames, filter_eq_iff]
    simp only [List.mem_filter, DeclaredMethod.meetsPurpose, Bool.or_eq_true, Bool.not_eq_true',
      and_imp]
    constructor
    · intro h hpurposed e he
      cases hhook : e.2.isHook with
      | true => exact .inl rfl
      | false => exact .inr ((h e he hhook).resolve_left (by simp [hpurposed]))
    · intro h e he hhook
      cases hpurposed : options.meets .purposedOnly with
      | true => exact .inr ((h hpurposed e he).resolve_left (by simp [hhook]))
      | false => exact .inl rfl

/-- A class with a filter of its own and two methods, of which one has a purpose. -/
def purposedClass : Class :=
  .mk { id := .made 0, name := "Log", moduleName := "app", qualifier := "Log", members := [
    (filterHook, Class.hookOf (.tuple [])),
    ("write", .function { doc := some "@purpose LOG.WRITE" }),
    ("flush", .function {})] } [.exposed, .methodsExposed]

/-- The discovery of the class alone. -/
def purposedDiscovery : Discovery where
  reflections := [("app.Log", purposedClass)]

theorem recorded_eq_found_public :
    purposedClass.callHook (fun _ _ => .ok (.filter .publicAccess)) filterHook =
      .ok (.filter .publicAccess) ∧
    ∃ found records,
      purposedDiscovery.findMethods "app.Log" .publicAccess false = some found ∧
      Reflection.methodsOf (fun _ _ => .ok (.filter .publicAccess)) [] purposedClass = .ok records ∧
      records.map (·.record.qualifiedName) = ["app.Log::write", "app.Log::flush"] ∧
      (found.filter fun e => !e.2.isHook).map (·.1) = ["app.Log::write", "app.Log::flush"] := by
  have hhook : purposedClass.callHook (fun _ _ => .ok (.filter .publicAccess)) filterHook =
      .ok (.filter .publicAccess) := rfl
  obtain ⟨found, records, hfound, hrecords, -, -, hsame⟩ := @recorded_eq_found purposedClass _ _ []
    _ purposedDiscovery (by decide +kernel) hhook rfl (by decide +kernel) rfl
  have heq := hsame.2 fun hpurposed => absurd hpurposed (by decide)
  have hnames : (found.filter fun e => !e.2.isHook).map (·.1) =
      ["app.Log::write", "app.Log::flush"] := by
    cases hfound
    decide +kernel
  exact ⟨hhook, found, records, hfound, hrecords, heq.trans hnames, hnames⟩

/-- With a filter that asks for a purpose, a method is found that has no record. -/
theorem found_unrecorded :
    let options := MethodFilter.publicAccess.union .purposedOnly
    ((purposedDiscovery.findMethods "app.Log" options false).getD []).map (·.1) =
        ["app.Log::get_method_filter_options", "app.Log::write", "app.Log::flush"] ∧
      (methodsWith purposedClass options).map (·.record.qualifiedName) = ["app.Log::write"] := by
  decide +kernel

end Exposure.Discovery
