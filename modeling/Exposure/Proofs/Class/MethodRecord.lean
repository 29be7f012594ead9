import Exposure.Proofs.Attempt
import Exposure.Proofs.Record.MethodName
import Exposure.Reflection

/-!
Which methods of a class are recorded: those that the filter lets through, but for the hooks, and
only those with a purpose if the filter asks for one. The records come in the order in which the
class declares the methods, each under the name of the method.
-/
namespace Exposure

open Reflection

namespace DeclaredMethod

/-- The method serves the reflection. -/
def isHook (m : DeclaredMethod) : Bool := hooks.contains m.name

/-- The documentation gives the method a purpose. -/
def hasPurpose (m : DeclaredMethod) : Bool :=
  !(allValues "purpose" (tagsIn methodTags m.callee.doc?)).isEmpty

/-- The method has a purpose if the filter asks for one. -/
def meetsPurpose (options : MethodFilter) (m : DeclaredMethod) : Bool :=
  !options.meets .purposedOnly || m.hasPurpose

end DeclaredMethod

namespace Reflection

theorem map_ofMethod? (c : Class) (options : MethodFilter) (m : DeclaredMethod) :
    (ofMethod? c options m).map (·.record.qualifiedName) =
      if m.meetsPurpose options then some (joinMethodName c.qualifiedName m.name) else none := by
  rw [ofMethod?, DeclaredMethod.meetsPurpose, DeclaredMethod.hasPurpose]
  by_cases h : (options.meets .purposedOnly &&
      (allValues "purpose" (tagsIn methodTags m.callee.doc?)).isEmpty) = true
  · rw [if_pos h, ← Bool.not_and, h]
    rfl
  · rw [if_neg h, ← Bool.not_and, Bool.eq_false_iff.2 h]
    rfl

theorem qualifiedNames_methodsWith (c : Class) (options : MethodFilter) :
    (methodsWith c options).map (·.record.qualifiedName) =
      (((c.declaredMethods.filter (·.passes options)).filter fun m => !m.isHook).filter
        (·.meetsPurpose options)).map fun m => joinMethodName c.qualifiedName m.name := by
  have hfilter : (c.declaredMethods.filter fun m => !hooks.contains m.name && m.passes options) =
      (c.declaredMethods.filter (·.passes options)).filter fun m => !m.isHook := by
    rw [List.filter_filter]
    rfl
  rw [methodsWith, hfilter]
  generalize (c.declaredMethods.filter (·.passes options)).filter (fun m => !m.isHook) = ms
  rw [List.map_filterMap, ← List.filterMap_eq_map, List.filterMap_filter]
  congr 1
  funext m
  exact map_ofMethod? c options m

/-- The methods of an exposed class are those that the filter given by its hook lets through. -/
theorem methodsOf_eq_ok {run : Run} {registry : Class.Registry} {c : Class} {v : Value}
    {options : MethodFilter} (hexposes : c.exposesMethods registry = true)
    (hhook : c.callHook run filterHook = .ok v) (hfilter : v.toFilter = .ok options) :
    methodsOf run registry c = .ok (methodsWith c options) := by
  rw [methodsOf, if_pos hexposes, hhook]
  simp only [bind, Except.bind, hfilter]
  rfl

theorem methods_ofClass {run : Run} {registry : Class.Registry} {c : Class} {source : String}
    {moduleName : Option String} {r : Reflection}
    (h : ofClass run registry c source moduleName = .ok (some r)) :
    methodsOf run registry c = .ok r.methods := by
  rw [ofClass] at h
  split at h
  · split at h
    · rename_i hexposed
      cases h
      obtain ⟨methods, hmethods, hrest⟩ := bind_eq_ok.1 hexposed
      obtain ⟨v, -, hrest⟩ := bind_eq_ok.1 hrest
      obtain ⟨purposes, -, hrest⟩ := bind_eq_ok.1 hrest
      cases hrest
      exact hmethods
    · cases h
  · cases h

/-- The methods of a reflection are those of its class that some filter lets through, or none. -/
theorem methods_eq_methodsWith {run : Run} {registry : Class.Registry} {c : Class} {source : String}
    {moduleName : Option String} {r : Reflection}
    (h : ofClass run registry c source moduleName = .ok (some r)) :
    r.methods = [] ∨ ∃ options, r.methods = methodsWith c options := by
  have hmethods := methods_ofClass h
  rw [methodsOf] at hmethods
  split at hmethods
  · obtain ⟨v, -, hrest⟩ := bind_eq_ok.1 hmethods
    obtain ⟨options, -, hrest⟩ := bind_eq_ok.1 hrest
    exact .inr ⟨options, (Except.ok.inj hrest).symm⟩
  · exact .inl (Except.ok.inj hmethods).symm

end Reflection
end Exposure
