import Exposure.Artifact.Document

/-!
Names whose records differ between two indexes. Purposes do not count, nor does the order of
records; a class and a method of one name are listed once.
-/
namespace Exposure.Artifact

/-- Names that only one table has, or that have records that are not the same. -/
def differingNames {α : Type} (same : α → α → Bool) (before after : Table α) : List String :=
  (before.keys.filter fun n => match before.get? n, after.get? n with
    | some r, some s => !same r s
    | _, _ => true) ++ after.keys.filter fun n => !before.contains n

/-- Sorted by code points, without repetition. -/
def sortNames (names : List String) : List String :=
  (names.mergeSort fun a b => !(b < a)).eraseDups

/-- The names whose class or method records differ. -/
def changedNames (before after : Index) : List String :=
  sortNames (differingNames ClassRecord.same before.classes after.classes
    ++ differingNames (fun r s => r == s) before.methods after.methods)

/-- The same for two sources; a source that cannot be read as an index gives no names. -/
def changedSymbols (before after : Except LoadError Index) : Except LoadError (List String) :=
  match before, after with
  | .ok b, .ok a => .ok (changedNames b a)
  | .error e, _ => if e.isNotFound then .error e else .ok []
  | .ok _, .error e => if e.isNotFound then .error e else .ok []

end Exposure.Artifact
