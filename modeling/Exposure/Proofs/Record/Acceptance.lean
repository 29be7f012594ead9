import Exposure.Record.Basic
import Mathlib.Data.List.Basic

/-!
Which objects are records. A record is read just if each field that the object has a value for can
take it and no key is left over. A field has a document key and a long name, and is read by the
first of these that the object has; under the other the object must then have nothing. The name
that a record is filed under replaces what the object says about it.
-/
namespace Exposure
namespace Schema

/-- A field of a record: the keys that it is read by and the values that it takes. -/
structure Field where
  keys : List String
  takes : Json → Prop

/-- The value under the first of the keys that an object has. -/
def valueOf? (keys : List String) (ms : List (String × Json)) : Option Json :=
  keys.findSome? fun k => Assoc.get? k ms

/-- Under which keys and with which values an object is a record with these fields. -/
structure Fits (fields : List Field) (ms : List (String × Json)) : Prop where
  taken : ∀ f ∈ fields, ∀ v, valueOf? f.keys ms = some v → f.takes v
  known : ∀ k ∈ Assoc.keys ms,
    k = "qualified_name" ∨ ∃ f ∈ fields, usedKey? f.keys ms = some k

def IsText (v : Json) : Prop := ∃ s, v = .string s

def IsTextOrNull (v : Json) : Prop := v = .null ∨ IsText v

def IsTextList (v : Json) : Prop := ∃ items, v = .array items ∧ ∀ item ∈ items, IsText item

def IsTextMap (v : Json) : Prop := ∃ ms, v = .object ms ∧ ∀ m ∈ ms, IsText m.2

/-- A Boolean, a number that equals zero or one, or a word for a truth value in letters of either
case. -/
def IsFlag : Json → Prop
  | .bool _ => True
  | .int n => n = 0 ∨ n = 1
  | .float x => x.equalsInt 0 = true ∨ x.equalsInt 1 = true
  | .string s => String.ofList (s.toList.map Char.toLower) ∈ trueSpellings ++ falseSpellings
  | _ => False

namespace Checked

variable {α β γ : Type}

/-- The check has found no problem. -/
def IsValid (x : Checked α) : Prop := ∃ a, x = .valid a

@[simp] theorem isValid_valid (a : α) : (valid a).IsValid := ⟨a, rfl⟩

@[simp] theorem not_isValid_invalid (is : List Issue) : ¬(invalid is : Checked α).IsValid := by
  rintro ⟨_, h⟩
  cases h

@[simp] theorem not_isValid_fail (p : Problem) : ¬(fail p : Checked α).IsValid :=
  not_isValid_invalid _

@[simp] theorem isValid_under (key : String) (x : Checked α) :
    (under key x).IsValid ↔ x.IsValid := by
  cases x <;> simp [under]

@[simp] theorem isValid_both (f : α → β → γ) (x : Checked α) (y : Checked β) :
    (both f x y).IsValid ↔ x.IsValid ∧ y.IsValid := by
  cases x <;> cases y <;> simp [both]

@[simp] theorem isValid_map (f : α → β) (x : Checked α) : (x.map f).IsValid ↔ x.IsValid := by
  cases x <;> simp [Checked.map]

@[simp] theorem isValid_functor_map (f : α → β) (x : Checked α) :
    (f <$> x).IsValid ↔ x.IsValid :=
  isValid_map f x

@[simp] theorem isValid_seq (f : Checked (α → β)) (x : Checked α) :
    (f <*> x).IsValid ↔ f.IsValid ∧ x.IsValid :=
  isValid_both _ f x

theorem isValid_all {f : α → Checked β} {xs : List α} :
    (all f xs).IsValid ↔ ∀ x ∈ xs, (f x).IsValid := by
  induction xs with
  | nil => simp [all]
  | cons x xs ih => simp [all, ih]

theorem toExcept_eq_ok {x : Checked α} {model : String} :
    (∃ a, x.toExcept model = .ok a) ↔ x.IsValid := by
  cases x <;> simp [toExcept]

end Checked

open Checked

theorem isValid_string {v : Json} : (string v).IsValid ↔ IsText v := by
  cases v <;> simp [string, IsText]

theorem isValid_stringOrNull {v : Json} : (stringOrNull v).IsValid ↔ IsTextOrNull v := by
  cases v <;> simp [stringOrNull, IsTextOrNull, IsText]

theorem isValid_stringArray {v : Json} :
    (arrayOf .notTuple string v).IsValid ↔ IsTextList v := by
  cases v with
  | array items =>
      have hindex : (∀ p ∈ items.zipIdx, IsText p.1) ↔ ∀ item ∈ items, IsText item := by
        rw [← List.forall_mem_map (f := Prod.fst), List.zipIdx_map_fst]
      simpa [arrayOf, isValid_all, isValid_string, IsTextList] using hindex
  | null | bool _ | int _ | float _ | string _ | object _ => simp [arrayOf, IsTextList]

theorem isValid_stringMap {v : Json} : (stringMap v).IsValid ↔ IsTextMap v := by
  cases v <;> simp [stringMap, isValid_all, isValid_string, IsTextMap]

theorem isValid_flag {v : Json} : (flag v).IsValid ↔ IsFlag v := by
  cases v with
  | null | bool _ | array _ | object _ => simp [flag, IsFlag]
  | int n =>
      rw [flag, IsFlag]
      split_ifs <;> simp [*]
  | float x =>
      rw [flag, IsFlag]
      split_ifs <;> simp [*]
  | string s =>
      rw [flag, IsFlag]
      split_ifs <;> simp_all

/-- An optional field keeps an object from being read just if it has a value that is refused. -/
theorem isValid_optional {α : Type} {keys : List String} {check : Json → Checked α} {absent : α}
    {ms : List (String × Json)} :
    (optional keys check absent ms).IsValid ↔
      ∀ v, valueOf? keys ms = some v → (check v).IsValid := by
  have hvalue : valueOf? keys ms =
      (keys.findSome? fun k => (Assoc.get? k ms).map fun v => (k, v)).map Prod.snd := by
    rw [valueOf?, List.map_findSome?]
    simp [Function.comp_def]
  rw [optional, hvalue]
  cases keys.findSome? fun k => (Assoc.get? k ms).map fun v => (k, v) <;> simp

theorem isValid_noOthers {fields : List (List String)} {ms : List (String × Json)} :
    (noOthers fields ms).IsValid ↔
      ∀ k ∈ Assoc.keys ms, ∃ keys ∈ fields, usedKey? keys ms = some k := by
  have hused : (∀ k ∈ Assoc.keys ms, ∃ keys ∈ fields, usedKey? keys ms = some k) ↔
      ms.filter (fun m => !(fields.filterMap (usedKey? · ms)).contains m.1) = [] := by
    simp [Assoc.keys, List.filter_eq_nil_iff]
  rw [hused, noOthers]
  split
  · rename_i h
    exact iff_of_true (isValid_valid ()) h
  · rename_i h
    exact iff_of_false (not_isValid_invalid _) h

section Filed

variable {keys : List String} (h : "qualified_name" ∉ keys) (name : Json)
  (ms : List (String × Json))

include h in
theorem valueOf?_put : valueOf? keys (Assoc.put "qualified_name" name ms) = valueOf? keys ms := by
  induction keys with
  | nil => rfl
  | cons k keys ih =>
      obtain ⟨hk, hkeys⟩ := not_or.1 (mt List.mem_cons.2 h)
      have hrest := ih hkeys
      simp only [valueOf?] at hrest ⊢
      rw [List.findSome?_cons, List.findSome?_cons, Assoc.get?_put, if_neg hk, hrest]

include h in
theorem usedKey?_put : usedKey? keys (Assoc.put "qualified_name" name ms) = usedKey? keys ms := by
  induction keys with
  | nil => rfl
  | cons k keys ih =>
      obtain ⟨hk, hkeys⟩ := not_or.1 (mt List.mem_cons.2 h)
      have hrest := ih hkeys
      simp only [usedKey?] at hrest ⊢
      rw [List.find?_cons, List.find?_cons, Assoc.get?_put, if_neg hk, hrest]

end Filed

end Schema

open Schema Checked

/-- The checks of the fields and of the keys, made on an object with the name put into it, say
together that the object fits. -/
theorem fits_iff {fields : List Field} (h : ∀ f ∈ fields, "qualified_name" ∉ f.keys) (name : Json)
    (ms : List (String × Json)) :
    Fits fields ms ↔
      (∀ f ∈ fields, ∀ v, valueOf? f.keys (Assoc.put "qualified_name" name ms) = some v →
        f.takes v) ∧
      (noOthers (["qualified_name"] :: fields.map Field.keys)
        (Assoc.put "qualified_name" name ms)).IsValid := by
  have htaken : (∀ f ∈ fields, ∀ v, valueOf? f.keys ms = some v → f.takes v) ↔
      ∀ f ∈ fields, ∀ v, valueOf? f.keys (Assoc.put "qualified_name" name ms) = some v →
        f.takes v :=
    forall₂_congr fun f hf => by rw [valueOf?_put (h f hf)]
  have hname : usedKey? ["qualified_name"] (Assoc.put "qualified_name" name ms) =
      some "qualified_name" := by
    simp [usedKey?, Assoc.get?_put]
  have hread (k : String) : (∃ keys ∈ ["qualified_name"] :: fields.map Field.keys,
      usedKey? keys (Assoc.put "qualified_name" name ms) = some k) ↔
        k = "qualified_name" ∨ ∃ f ∈ fields, usedKey? f.keys ms = some k := by
    have hfield : (∃ keys ∈ fields.map Field.keys,
        usedKey? keys (Assoc.put "qualified_name" name ms) = some k) ↔
          ∃ f ∈ fields, usedKey? f.keys ms = some k := by
      simp only [List.mem_map, exists_exists_and_eq_and]
      exact exists_congr fun f => and_congr_right fun hf => by rw [usedKey?_put (h f hf)]
    rw [List.exists_mem_cons_iff, hfield, hname, Option.some.injEq]
    exact or_congr_left eq_comm
  have hkey {k : String} (hk : k ≠ "qualified_name") :
      k ∈ Assoc.keys (Assoc.put "qualified_name" name ms) ↔ k ∈ Assoc.keys ms := by
    simp [Assoc.mem_keys_iff_get?, Assoc.get?_put, Ne.symm hk]
  have hknown : (∀ k ∈ Assoc.keys ms,
      k = "qualified_name" ∨ ∃ f ∈ fields, usedKey? f.keys ms = some k) ↔
        ∀ k ∈ Assoc.keys (Assoc.put "qualified_name" name ms),
          k = "qualified_name" ∨ ∃ f ∈ fields, usedKey? f.keys ms = some k := by
    refine forall_congr' fun k => ?_
    by_cases hk : k = "qualified_name"
    · simp [hk]
    · rw [hkey hk]
  rw [isValid_noOthers, ← htaken]
  simp only [hread]
  exact ⟨fun h => ⟨h.taken, hknown.1 h.known⟩, fun h => ⟨h.1, hknown.2 h.2⟩⟩

namespace ClassRecord

/-- The fields of a class record apart from its name. -/
def fields : List Field := [
  ⟨["inheritance"], IsTextList⟩, ⟨["isAbstract", "is_abstract"], IsFlag⟩,
  ⟨["display", "display_name"], IsTextOrNull⟩, ⟨["module", "module_name"], IsTextOrNull⟩,
  ⟨["imports", "import_aliases"], IsTextMap⟩, ⟨["methodNames", "method_names"], IsTextList⟩]

theorem ofMembers_eq_ok_iff (name : String) (ms : List (String × Json)) :
    (∃ r, ofMembers name ms = .ok r) ↔ Fits fields ms := by
  rw [fits_iff (by simp [fields]) (.string name) ms]
  simp only [ofMembers, toExcept_eq_ok, isValid_both, isValid_seq, isValid_functor_map,
    isValid_optional, isValid_stringArray, isValid_flag, isValid_stringOrNull, isValid_stringMap,
    fields, fieldKeys, List.forall_mem_cons, List.map_cons, List.map_nil, List.not_mem_nil,
    false_imp_iff, implies_true, and_true, and_assoc]

end ClassRecord

namespace MethodRecord

/-- The fields of a method record apart from its name. -/
def fields : List Field := [
  ⟨["display", "display_name"], IsTextOrNull⟩, ⟨["isPublic", "is_public"], IsFlag⟩,
  ⟨["isProtected", "is_protected"], IsFlag⟩, ⟨["isPrivate", "is_private"], IsFlag⟩,
  ⟨["isStatic", "is_static"], IsFlag⟩, ⟨["isAbstract", "is_abstract"], IsFlag⟩,
  ⟨["isFinal", "is_final"], IsFlag⟩, ⟨["isInternal", "is_internal"], IsFlag⟩,
  ⟨["isConstructor", "is_constructor"], IsFlag⟩, ⟨["isDestructor", "is_destructor"], IsFlag⟩,
  ⟨["isDeprecated", "is_deprecated"], IsFlag⟩, ⟨["return", "return_type"], IsTextOrNull⟩]

theorem ofMembers_eq_ok_iff (name : String) (ms : List (String × Json)) :
    (∃ r, ofMembers name ms = .ok r) ↔ Fits fields ms := by
  rw [fits_iff (by simp [fields]) (.string name) ms]
  simp only [ofMembers, toExcept_eq_ok, isValid_both, isValid_seq, isValid_functor_map,
    isValid_optional, isValid_flag, isValid_stringOrNull, fields, fieldKeys, List.forall_mem_cons,
    List.map_cons, List.map_nil, List.not_mem_nil, false_imp_iff, implies_true, and_true, and_assoc]

end MethodRecord

end Exposure
