import Exposure.Proofs.Text.Split
import Exposure.Record.Basic

/-!
Qualified names of methods. Taking one apart gives back the parts that it was joined from just if no
separator begins inside the class part, however many colons the method part has.
-/
namespace Exposure

/-- No separator begins in the name, not even one that ends behind it. -/
def Separable (className : String) : Prop :=
  ¬methodSeparator.toList <:+: className.toList ∧ className.toList.getLast? ≠ some ':'

instance (className : String) : Decidable (Separable className) :=
  inferInstanceAs (Decidable (_ ∧ _))

theorem separable_iff {className : String} :
    Separable className ↔
      ¬methodSeparator.toList <:+: className.toList ++ methodSeparator.toList.dropLast := by
  have hcolons : methodSeparator.toList = [':', ':'] := by decide
  have hsuffix : [':', ':'] <:+ className.toList ++ [':'] ↔
      className.toList.getLast? = some ':' := by
    rw [List.getLast?_eq_some_iff]
    constructor
    · rintro ⟨t, ht⟩
      refine ⟨t, ((List.append_left_inj [':']).1 ?_).symm⟩
      rw [← ht, List.append_assoc]
      rfl
    · rintro ⟨t, ht⟩
      exact ⟨t, by rw [ht, List.append_assoc]; rfl⟩
  rw [Separable, hcolons, List.dropLast_cons_cons, List.dropLast_singleton,
    List.infix_concat_iff, hsuffix, not_or, and_comm]

theorem separable_of_notMem {className : String} (h : ':' ∉ className.toList) :
    Separable className := by
  have hcolons : methodSeparator.toList = [':', ':'] := by decide
  refine ⟨fun hinside => h (hinside.subset (by simp [hcolons])), fun hlast => h ?_⟩
  exact List.mem_of_getLast? hlast

theorem toList_joinMethodName (className name : String) :
    (joinMethodName className name).toList =
      className.toList ++ (methodSeparator.toList ++ name.toList) := by
  simp [joinMethodName]

theorem joinMethodName_left_inj {className className' name : String} :
    joinMethodName className name = joinMethodName className' name ↔ className = className' := by
  rw [← String.toList_inj, toList_joinMethodName, toList_joinMethodName, List.append_left_inj,
    String.toList_inj]

theorem joinMethodName_right_inj {className name name' : String} :
    joinMethodName className name = joinMethodName className name' ↔ name = name' := by
  rw [← String.toList_inj, toList_joinMethodName, toList_joinMethodName, List.append_right_inj,
    List.append_right_inj, String.toList_inj]

theorem joinMethodName_ne_left (className name : String) :
    joinMethodName className name ≠ className := by
  intro heq
  have hlength := congrArg (fun s => s.toList.length) heq
  simp only [toList_joinMethodName, List.length_append] at hlength
  have hpositive : 0 < methodSeparator.toList.length := by decide
  omega

theorem joinMethodName_of_cutFirst {key : String} {c m : List Char}
    (h : Text.cutFirst methodSeparator.toList key.toList = some (c, m)) :
    joinMethodName (String.ofList c) (String.ofList m) = key := by
  rw [← String.toList_inj, toList_joinMethodName, String.toList_ofList, String.toList_ofList]
  exact (Text.append_of_cutFirst h).symm

theorem splitMethodName_joinMethodName_iff {className name : String} :
    splitMethodName (joinMethodName className name) = (className, name) ↔
      Separable className := by
  have hcut : Text.cutFirst methodSeparator.toList (joinMethodName className name).toList =
      some (className.toList, name.toList) ↔ Separable className := by
    rw [toList_joinMethodName, Text.cutFirst_append_iff (by decide), separable_iff]
  rw [← hcut, splitMethodName]
  cases Text.cutFirst methodSeparator.toList (joinMethodName className name).toList with
  | none => simp [joinMethodName_ne_left]
  | some p => simp [Prod.ext_iff, ← String.toList_inj]

theorem splitMethodName_joinMethodName {className : String} (h : ':' ∉ className.toList)
    (name : String) : splitMethodName (joinMethodName className name) = (className, name) :=
  splitMethodName_joinMethodName_iff.2 (separable_of_notMem h)

/-- A name splits into a class part and a method part that is not empty just if it is joined from
them and has its first separator between them. -/
theorem splitMethodName_eq_iff {key className name : String} (hname : name ≠ "") :
    splitMethodName key = (className, name) ↔
      key = joinMethodName className name ∧ Separable className := by
  constructor
  · intro hsplit
    obtain rfl : key = joinMethodName className name := by
      rw [splitMethodName] at hsplit
      cases hcut : Text.cutFirst methodSeparator.toList key.toList with
      | none =>
          rw [hcut] at hsplit
          exact absurd (Prod.mk.inj hsplit).2.symm hname
      | some p =>
          rw [hcut] at hsplit
          cases hsplit
          exact (joinMethodName_of_cutFirst hcut).symm
    exact ⟨rfl, splitMethodName_joinMethodName_iff.1 hsplit⟩
  · rintro ⟨rfl, hseparable⟩
    exact splitMethodName_joinMethodName_iff.2 hseparable

theorem joinMethodName_splitMethodName_iff {key : String} :
    joinMethodName (splitMethodName key).1 (splitMethodName key).2 = key ↔
      methodSeparator.toList <:+: key.toList := by
  rw [splitMethodName]
  cases hcut : Text.cutFirst methodSeparator.toList key.toList with
  | none => simp [joinMethodName_ne_left, Text.cutFirst_eq_none_iff.1 hcut]
  | some p =>
      have hinside : methodSeparator.toList <:+: key.toList :=
        ⟨p.1, p.2, by rw [List.append_assoc, ← Text.append_of_cutFirst hcut]⟩
      simp [joinMethodName_of_cutFirst hcut, hinside]

theorem joinMethodName_inj {className className' name name' : String} (h : Separable className)
    (h' : Separable className') :
    joinMethodName className name = joinMethodName className' name' ↔
      className = className' ∧ name = name' := by
  constructor
  · intro heq
    have hparts : (className, name) = (className', name') := by
      rw [← splitMethodName_joinMethodName_iff.2 h, heq, splitMethodName_joinMethodName_iff.2 h']
    exact Prod.mk.inj hparts
  · rintro ⟨rfl, rfl⟩
    rfl

/-- Splitting undoes joining just if the class part has no separator and does not end in a colon,
joining undoes splitting just if there is a separator, and joined names with class parts of that
kind have the same parts if they are the same. -/
theorem splitMethodName_inverts_joinMethodName :
    (∀ className name, splitMethodName (joinMethodName className name) = (className, name) ↔
      ¬"::".toList <:+: className.toList ∧ className.toList.getLast? ≠ some ':') ∧
    (∀ key, joinMethodName (splitMethodName key).1 (splitMethodName key).2 = key ↔
      "::".toList <:+: key.toList) ∧
    ∀ className className' name name',
      (¬"::".toList <:+: className.toList ∧ className.toList.getLast? ≠ some ':') →
      (¬"::".toList <:+: className'.toList ∧ className'.toList.getLast? ≠ some ':') →
      joinMethodName className name = joinMethodName className' name' →
        className = className' ∧ name = name' :=
  ⟨fun _ _ => splitMethodName_joinMethodName_iff, fun _ => joinMethodName_splitMethodName_iff,
    fun _ _ _ _ h h' => (joinMethodName_inj h h').1⟩

theorem splitMethodName_inverts_joinMethodName_colons :
    splitMethodName (joinMethodName "app:Log" "::write") = ("app:Log", "::write") ∧
    splitMethodName (joinMethodName "app:Log:" "write") ≠ ("app:Log:", "write") ∧
    joinMethodName (splitMethodName "app:Log::::write").1 (splitMethodName "app:Log::::write").2 =
      "app:Log::::write" ∧
    joinMethodName "app:Log" "::write" ≠ joinMethodName "app" ":Log::::write" := by
  obtain ⟨hsplit, hjoin, hinj⟩ := splitMethodName_inverts_joinMethodName
  refine ⟨(hsplit _ _).2 (by decide +kernel), fun h => ?_, (hjoin _).2 (by decide +kernel),
    fun h => ?_⟩
  · exact absurd ((hsplit _ _).1 h) (by decide +kernel)
  · have hparts := hinj _ _ _ _ (by decide +kernel) (by decide +kernel) h
    exact absurd hparts.1 (by decide)

/-- A colon at the end of the class part can as well begin the method part. -/
example : joinMethodName "app.Log:" "write" = joinMethodName "app.Log" ":write" := by decide

namespace MethodRecord

variable {r : MethodRecord}

/-- The qualified name of a method is that of its class joined with its own. -/
theorem qualifiedName_eq (h : r.name ≠ "") :
    r.qualifiedName = joinMethodName r.className r.name ∧ Separable r.className :=
  (splitMethodName_eq_iff h).1 rfl

/-- A class in whose name the method's was joined is the method's class just if it is separable. -/
theorem className_eq_iff {className n : String} (h : r.name ≠ "")
    (hjoin : r.qualifiedName = joinMethodName className n) :
    r.className = className ↔ Separable className := by
  constructor
  · rintro rfl
    exact (qualifiedName_eq h).2
  · intro hseparable
    rw [MethodRecord.className, hjoin, splitMethodName_joinMethodName_iff.2 hseparable]

end MethodRecord
end Exposure
