import Exposure.Record.Basic

/-!
A record reads back from its document. What does not come back is the difference between a text
that is unset and one that is empty, and the name, which is that of the place where it is filed.
-/
namespace Exposure

open Schema

/-- The members with what is unset or empty left out, filed under a name. -/
def filed (name : String) (ms : List (String × Json)) : List (String × Json) :=
  Assoc.put "qualified_name" (.string name) (ms.filter fun m => m.2.truthy)

theorem get?_filed {ms : List (String × Json)} (h : (Assoc.keys ms).Nodup) (name : String)
    {key : String} (hkey : key ≠ "qualified_name") :
    Assoc.get? key (filed name ms) = (Assoc.get? key ms).filter Json.truthy := by
  rw [filed, Assoc.get?_put, if_neg (Ne.symm hkey), Assoc.get?_filter _ h]

/-- A check reads a value as `x`, where a value that is unset or empty stands for nothing. -/
def Reads {α : Type} (check : Json → Checked α) (absent : α) (v : Json) (x : α) : Prop :=
  if v.truthy then check v = .valid x else absent = x

theorem optional_filed {α : Type} {check : Json → Checked α} {absent x : α} {v : Json}
    (hread : Reads check absent v x) {ms : List (String × Json)}
    (h : ("qualified_name" :: Assoc.keys ms).Nodup) (name : String) {key : String}
    {others : List String} (hv : Assoc.get? key ms = some v)
    (hothers : ∀ o ∈ others, o ∉ "qualified_name" :: Assoc.keys ms) :
    Schema.optional (key :: others) check absent (filed name ms) = .valid x := by
  obtain ⟨hname, hn⟩ := List.nodup_cons.1 h
  have hkey : key ≠ "qualified_name" := fun e => hname (e ▸ Assoc.mem_keys_iff_get?.2 ⟨v, hv⟩)
  have hrest : others.findSome? (fun k => (Assoc.get? k (filed name ms)).map fun v => (k, v)) =
      none := by
    rw [List.findSome?_eq_none_iff]
    intro o ho
    obtain ⟨hne, hnot⟩ := not_or.1 (mt List.mem_cons.2 (hothers o ho))
    rw [get?_filed hn name hne, Assoc.get?_eq_none hnot]
    rfl
  unfold Schema.optional
  rw [List.findSome?_cons, get?_filed hn name hkey, hv]
  unfold Reads at hread
  split at hread
  · rename_i ht
    simp [Option.filter, ht, hread, Checked.under]
  · rename_i ht
    simp [Option.filter, ht, hrest, hread]

theorem reads_stringOrNull (o : Option String) :
    Reads stringOrNull none (jsonOfOption o) (o.filter (· ≠ "")) := by
  cases o with
  | none => rfl
  | some s =>
      by_cases hs : s = "" <;>
        simp [Reads, jsonOfOption, Json.truthy, hs, stringOrNull, Option.filter]

theorem reads_flag (b : Bool) : Reads flag false (.bool b) b := by
  cases b <;> simp [Reads, Json.truthy, flag]

theorem all_strings (ss : List String) (i : Nat) :
    Checked.all (fun p => Checked.under (toString p.2) (string p.1))
      ((ss.map Json.string).zipIdx i) = .valid ss := by
  induction ss generalizing i with
  | nil => rfl
  | cons s ss ih =>
      rw [List.map_cons, List.zipIdx_cons, Checked.all, ih (i + 1)]
      rfl

theorem reads_strings (ss : List String) :
    Reads (arrayOf .notTuple string) [] (.strings ss) ss := by
  cases ss with
  | nil => rfl
  | cons s ss => exact all_strings (s :: ss) 0

theorem all_stringMembers (ps : List (String × String)) :
    Checked.all (fun m : String × Json => Checked.under m.1 ((string m.2).map fun s => (m.1, s)))
      (ps.map fun p => (p.1, .string p.2)) = .valid ps := by
  induction ps with
  | nil => rfl
  | cons p ps ih =>
      rw [List.map_cons, Checked.all, ih]
      rfl

theorem reads_stringMap (ps : List (String × String)) :
    Reads stringMap [] (.object (ps.map fun p => (p.1, .string p.2))) ps := by
  cases ps with
  | nil => rfl
  | cons p ps => exact all_stringMembers (p :: ps)

/-- No key is refused if each is the first by which some field is read. -/
theorem noOthers_filed {fields : List (List String)} {ms : List (String × Json)} (name : String)
    (hname : ["qualified_name"] ∈ fields)
    (h : ∀ key ∈ Assoc.keys ms, ∃ others, key :: others ∈ fields) :
    noOthers fields (filed name ms) = .valid () := by
  have hused : ∀ m ∈ filed name ms, m.1 ∈ fields.filterMap (usedKey? · (filed name ms)) := by
    intro m hm
    have hkey : m.1 ∈ Assoc.keys (filed name ms) := List.mem_map_of_mem hm
    have hhead : ∃ others, m.1 :: others ∈ fields := by
      rw [filed, Assoc.keys_put] at hkey
      have hcase : m.1 = "qualified_name" ∨ m.1 ∈ Assoc.keys (ms.filter fun m => m.2.truthy) := by
        split at hkey
        · exact .inr hkey
        · simpa [or_comm] using hkey
      rcases hcase with hq | hmem
      · exact ⟨[], hq ▸ hname⟩
      · obtain ⟨n, hn, hfst⟩ := List.mem_map.1 hmem
        exact h _ (List.mem_map.2 ⟨n, (List.mem_filter.1 hn).1, hfst⟩)
    obtain ⟨others, hmem⟩ := hhead
    refine List.mem_filterMap.2 ⟨_, hmem, ?_⟩
    obtain ⟨v, hv⟩ := Assoc.mem_keys_iff_get?.1 hkey
    simp [usedKey?, hv]
  have hnil : (filed name ms).filter (fun m =>
      !(fields.filterMap (usedKey? · (filed name ms))).contains m.1) = [] := by
    rw [List.filter_eq_nil_iff]
    intro m hm
    simpa using hused m hm
  unfold noOthers
  simp only [hnil]

theorem memberIf_eq_filter (key : String) (value : Json) :
    memberIf key value = [(key, value)].filter fun m => m.2.truthy := by
  cases h : value.truthy <;> simp [memberIf, h]

namespace ClassRecord

/-- The members of the document, what is unset or empty among them. -/
def fieldMembers (r : ClassRecord) : List (String × Json) := [
  ("inheritance", .strings r.inheritance), ("isAbstract", .bool r.isAbstract),
  ("display", jsonOfOption r.displayName), ("module", jsonOfOption r.moduleName),
  ("imports", .object (r.importAliases.map fun p => (p.1, .string p.2))),
  ("methodNames", .strings r.methodNames)]

theorem toDocument_eq (r : ClassRecord) :
    r.toDocument = .object (r.fieldMembers.filter fun m => m.2.truthy) := by
  simp only [toDocument, memberIf_eq_filter, ← List.filter_append]
  rfl

/-- The record as it reads back: filed under the name, and a text that is set has characters. -/
def readBack (name : String) (r : ClassRecord) : ClassRecord :=
  { r with
    qualifiedName := name
    displayName := r.displayName.filter (· ≠ "")
    moduleName := r.moduleName.filter (· ≠ "") }

theorem ofMembers_filter (name : String) (r : ClassRecord) :
    ofMembers name (r.fieldMembers.filter fun m => m.2.truthy) = .ok (r.readBack name) := by
  have hkeys : Assoc.keys r.fieldMembers =
    ["inheritance", "isAbstract", "display", "module", "imports", "methodNames"] := rfl
  have field {α : Type} {check : Json → Checked α} {absent x : α} {v : Json}
      (hread : Reads check absent v x) (key : String) (others : List String)
      (hv : Assoc.get? key r.fieldMembers = some v)
      (hothers : ∀ o ∈ others, o ∉ ["qualified_name", "inheritance", "isAbstract", "display",
        "module", "imports", "methodNames"]) :
      Schema.optional (key :: others) check absent (filed name r.fieldMembers) = .valid x :=
    optional_filed hread (by rw [hkeys]; decide) name hv (by rwa [hkeys])
  have hrest : noOthers fieldKeys (filed name r.fieldMembers) = .valid () :=
    noOthers_filed name (by decide) (by simp [hkeys, fieldKeys])
  unfold ofMembers
  dsimp only
  rw [← filed, hrest, field (reads_strings r.inheritance) "inheritance" [] rfl (by decide),
    field (reads_flag r.isAbstract) "isAbstract" ["is_abstract"] rfl (by decide),
    field (reads_stringOrNull r.displayName) "display" ["display_name"] rfl (by decide),
    field (reads_stringOrNull r.moduleName) "module" ["module_name"] rfl (by decide),
    field (reads_stringMap r.importAliases) "imports" ["import_aliases"] rfl (by decide),
    field (reads_strings r.methodNames) "methodNames" ["method_names"] rfl (by decide)]
  rfl

end ClassRecord

namespace MethodRecord

/-- The members of the document, what is unset or false among them. -/
def fieldMembers (r : MethodRecord) : List (String × Json) := [
  ("display", jsonOfOption r.displayName), ("isPublic", .bool r.isPublic),
  ("isProtected", .bool r.isProtected), ("isPrivate", .bool r.isPrivate),
  ("isStatic", .bool r.isStatic), ("isAbstract", .bool r.isAbstract),
  ("isFinal", .bool r.isFinal), ("isInternal", .bool r.isInternal),
  ("isConstructor", .bool r.isConstructor), ("isDestructor", .bool r.isDestructor),
  ("isDeprecated", .bool r.isDeprecated), ("return", jsonOfOption r.returnType)]

theorem toDocument_eq (r : MethodRecord) :
    r.toDocument = .object (r.fieldMembers.filter fun m => m.2.truthy) := by
  simp only [toDocument, memberIf_eq_filter, ← List.filter_append]
  rfl

/-- The record as it reads back: filed under the name, and a text that is set has characters. -/
def readBack (name : String) (r : MethodRecord) : MethodRecord :=
  { r with
    qualifiedName := name
    displayName := r.displayName.filter (· ≠ "")
    returnType := r.returnType.filter (· ≠ "") }

theorem ofMembers_filter (name : String) (r : MethodRecord) :
    ofMembers name (r.fieldMembers.filter fun m => m.2.truthy) = .ok (r.readBack name) := by
  have hkeys : Assoc.keys r.fieldMembers = ["display", "isPublic", "isProtected", "isPrivate",
    "isStatic", "isAbstract", "isFinal", "isInternal", "isConstructor", "isDestructor",
    "isDeprecated", "return"] := rfl
  have field {α : Type} {check : Json → Checked α} {absent x : α} {v : Json}
      (hread : Reads check absent v x) (key other : String)
      (hv : Assoc.get? key r.fieldMembers = some v)
      (hother : other ∉ ["qualified_name", "display", "isPublic", "isProtected", "isPrivate",
        "isStatic", "isAbstract", "isFinal", "isInternal", "isConstructor", "isDestructor",
        "isDeprecated", "return"]) :
      Schema.optional [key, other] check absent (filed name r.fieldMembers) = .valid x :=
    optional_filed hread (by rw [hkeys]; decide) name hv (by simpa [hkeys] using hother)
  have hrest : noOthers fieldKeys (filed name r.fieldMembers) = .valid () :=
    noOthers_filed name (by decide) (by simp [hkeys, fieldKeys])
  unfold ofMembers
  dsimp only
  rw [← filed, hrest,
    field (reads_stringOrNull r.displayName) "display" "display_name" rfl (by decide),
    field (reads_flag r.isPublic) "isPublic" "is_public" rfl (by decide),
    field (reads_flag r.isProtected) "isProtected" "is_protected" rfl (by decide),
    field (reads_flag r.isPrivate) "isPrivate" "is_private" rfl (by decide),
    field (reads_flag r.isStatic) "isStatic" "is_static" rfl (by decide),
    field (reads_flag r.isAbstract) "isAbstract" "is_abstract" rfl (by decide),
    field (reads_flag r.isFinal) "isFinal" "is_final" rfl (by decide),
    field (reads_flag r.isInternal) "isInternal" "is_internal" rfl (by decide),
    field (reads_flag r.isConstructor) "isConstructor" "is_constructor" rfl (by decide),
    field (reads_flag r.isDestructor) "isDestructor" "is_destructor" rfl (by decide),
    field (reads_flag r.isDeprecated) "isDeprecated" "is_deprecated" rfl (by decide),
    field (reads_stringOrNull r.returnType) "return" "return_type" rfl (by decide)]
  rfl

end MethodRecord
end Exposure
