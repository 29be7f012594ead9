import Exposure.Proofs.Record.MethodName
import Exposure.Proofs.Symbol.Usability

/-!
The classes that the methods of a class symbol are linked back to. A class lists its methods under
names joined with its own, and a method takes its class from the part before the first separator.
In an artifact that the validator accepts the two agree just if no separator begins inside the name
of the class; the method is linked to another class otherwise.
-/
namespace Exposure.SymbolCache

variable {i : Index} {c : SymbolCache} {name : String}

/-- The symbol is the method's class, and their names make up the method's qualified name. -/
def OwnedBy (c : SymbolCache) (t : MethodSymbol) (k : Nat) : Prop :=
  t.parent = some k ∧ ∃ s, c.classSymbol? k = some s ∧
    t.record.qualifiedName = joinMethodName s.name t.name

/-- Every method has an owner, which is the symbol of the class part of its name. -/
theorem exists_ownedBy (h : Sound i [] [] c) (hi : i.Consistent) (hf : Artifact.Filed i)
    {key : String} {m : Nat} (hm : numberAt c.methods key = some m) :
    ∃ t p, c.methodSymbol? m = some t ∧ t.record.qualifiedName = key ∧ t.name ≠ "" ∧
      numberAt c.classes t.record.className = some p ∧ OwnedBy c t p := by
  obtain ⟨t, ht, hr, hparent, hsome, -⟩ := h.methodParent hm
  obtain ⟨hname, howner⟩ := hi.owned key t.record hr
  rw [howner] at hsome
  obtain ⟨p, hp⟩ := Option.isSome_iff_exists.1 hsome
  have hnumber : numberAt c.classes t.record.className = some p := hparent.symm.trans hp
  obtain ⟨s, hs, hsr⟩ := h.loaded.classSymbol hnumber
  refine ⟨t, p, ht, hf.methods key t.record hr, hname, hnumber, hp, s, hs, ?_⟩
  rw [ClassSymbol.name, hf.classes _ s.record hsr]
  exact (MethodRecord.qualifiedName_eq hname).1

/-- A class symbol owns the methods that it lists just if its name is separable. -/
theorem ownedBy_iff_separable (h : Sound i [] [] c) {t : MethodSymbol} {n : String} {k p : Nat}
    (hk : numberAt c.classes name = some k)
    (hp : numberAt c.classes t.record.className = some p) (howned : OwnedBy c t p)
    (hname : t.name ≠ "") (hjoin : t.record.qualifiedName = joinMethodName name n) :
    (t.parent = some k ↔ Separable name) ∧
      (t.record.qualifiedName = joinMethodName name t.name ↔ Separable name) := by
  rw [← MethodRecord.className_eq_iff hname hjoin]
  constructor
  · rw [howned.1, Option.some.injEq]
    constructor
    · rintro rfl
      exact h.loaded.classes.inj _ _ _ hp hk
    · rintro rfl
      exact Option.some.inj (hp.symm.trans hk)
  · rw [(MethodRecord.qualifiedName_eq hname).1]
    exact joinMethodName_left_inj

/-- In the cache of a validated artifact, after any calls, every method of a class symbol has an
owner, a class symbol with which its qualified name is joined. This is the class that lists it just
if no separator begins inside the name of that class, and only then is the qualified name joined
from the names of the two. -/
theorem ownership_of_validate {fs : FileSystem} {text : String}
    {result : Artifact.ValidationResult}
    (h : Artifact.validate fs (Path.ofString text) = .ok result) (hok : result.ok = true) :
    ∃ i, Artifact.load fs (.path text) = .ok i ∧
      ∀ calls name k, (after i calls).classes.get? name = some (.symbol k) →
        ∃ s, (after i calls).classSymbol? k = some s ∧ s.name = name ∧
          ∀ m ∈ s.exposedMethods, ∃ t, (after i calls).methodSymbol? m = some t ∧
            (∃ p, OwnedBy (after i calls) t p) ∧
            (t.parent = some k ↔ Separable name) ∧
            (t.record.qualifiedName = joinMethodName name t.name ↔ Separable name) := by
  obtain ⟨i, hload, hi, hf⟩ := Artifact.load_of_validate h hok
  refine ⟨i, hload, fun calls name k hslot => ?_⟩
  have hsound := sound_after i calls
  have hk : numberAt (after i calls).classes name = some k := numberAt_eq_some_iff.2 hslot
  obtain ⟨s, hs, hr, hmethods⟩ := hsound.classMethods hk
  refine ⟨s, hs, hf.classes name s.record hr, fun m hm => ?_⟩
  -- The method is the symbol of one of the joined names.
  have hnumbered : some m ∈ s.exposedMethods.map some := List.mem_map_of_mem hm
  rw [hmethods] at hnumbered
  obtain ⟨key, hkey, hnumber⟩ := List.mem_map.1 hnumbered
  obtain ⟨n, -, rfl⟩ := List.mem_map.1 (List.mem_filter.1 hkey).1
  obtain ⟨t, p, ht, hjoin, hname, hp, howned⟩ := exists_ownedBy hsound hi hf hnumber
  exact ⟨t, ht, ⟨p, howned⟩, ownedBy_iff_separable hsound hk hp howned hname hjoin⟩

theorem ownership_of_validate_logging :
    Artifact.validate Logging.files (Path.ofString "/") = .ok {} ∧
    ∃ i, Artifact.load Logging.files (.path "/") = .ok i ∧
      ∀ calls name k, (after i calls).classes.get? name = some (.symbol k) →
        ∃ s, (after i calls).classSymbol? k = some s ∧ s.name = name ∧
          ∀ m ∈ s.exposedMethods, ∃ t, (after i calls).methodSymbol? m = some t ∧
            (∃ p, OwnedBy (after i calls) t p) ∧
            (t.parent = some k ↔ Separable name) ∧
            (t.record.qualifiedName = joinMethodName name t.name ↔ Separable name) :=
  ⟨Logging.validate_files, ownership_of_validate Logging.validate_files rfl⟩

namespace Namesake

/-- Two classes, with the first one's name before a separator in the name of the second, and a
method that the second lists. -/
def text : String :=
  "\x7b\"classes\":\x7b\"A\":\x7b\x7d,\"A::B\":\x7b\"methodNames\":[\"m\"]\x7d\x7d," ++
  "\"methods\":\x7b\"A::B::m\":\x7b\x7d\x7d\x7d"

def members : List (String × Json) := [
  ("classes", .object [("A", .object []), ("A::B", .object [("methodNames", .strings ["m"])])]),
  ("methods", .object [("A::B::m", .object [])])]

def index : Index where
  classes := (Table.empty.insert "A" { qualifiedName := "A" }).insert "A::B"
    { qualifiedName := "A::B", methodNames := ["m"] }
  methods := Table.empty.insert "A::B::m" { qualifiedName := "A::B::m" }

theorem holds_index : Artifact.Holds members index := ⟨rfl, rfl, rfl, rfl, rfl, rfl⟩

theorem consistent_index : index.Consistent :=
  ⟨Artifact.unrecordedMethods_eq_nil_iff.1 rfl, Artifact.misplacedMethods_eq_nil_iff.1 (by decide),
    rfl, rfl, .nil, .nil⟩

theorem documentIn_text :
    Artifact.documentIn (Artifact.holding text) (Path.ofString "/") = some (.object members) := by
  rw [Artifact.documentIn_holding, members]
  cbv

end Namesake

/-- The validator finds no error, and still the method that the class symbol lists has the other
class for its parent, and a name that does not complete the name of the class that lists it. -/
theorem owner_namesake :
    (∃ result, Artifact.validate (Artifact.holding Namesake.text) (Path.ofString "/") = .ok result ∧
      result.ok = true) ∧
    Artifact.load (Artifact.holding Namesake.text) (.path "/") = .ok Namesake.index ∧
    ∃ s t, (after Namesake.index [.lookUp (.ofClass "A::B")]).classes.get? "A::B" =
        some (.symbol 0) ∧
      (after Namesake.index [.lookUp (.ofClass "A::B")]).classSymbol? 0 = some s ∧
      s.exposedMethods = [0] ∧
      (after Namesake.index [.lookUp (.ofClass "A::B")]).methodSymbol? 0 = some t ∧
      t.parent = some 1 ∧ t.record.qualifiedName ≠ joinMethodName s.name t.name := by
  have hdirectory := Artifact.isDirectory_holding Namesake.text
  refine ⟨Artifact.validate_eq_ok_iff.2 ⟨hdirectory, Artifact.documentRemarks_ok_iff.2 ?_⟩,
    Artifact.load_of_holds hdirectory Namesake.documentIn_text Namesake.holds_index
      Namesake.consistent_index, _, _, rfl, rfl, rfl, rfl, rfl, by decide⟩
  exact ⟨_, _, Namesake.documentIn_text, Namesake.holds_index, Namesake.consistent_index⟩

end Exposure.SymbolCache
