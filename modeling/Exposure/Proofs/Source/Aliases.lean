import Exposure.Source.Imports
import Exposure.Proofs.Text.Split
import Mathlib.Data.List.Induction

/-!
The names that the imports of a module bind. What each imported name binds is stated by the rules of
the language; the table of a module then has the names that are bound at all, in the order in which
they are first bound, with what they are bound to last.
-/
namespace Exposure

namespace Assoc

variable {α : Type} {k : String} {m n : List (String × α)}

/-- Puts the pairs of another map into a map. -/
def update (m n : List (String × α)) : List (String × α) := n.foldl (fun m p => put p.1 p.2 m) m

/-- A value under a known key may be put before one under another key or after it. -/
theorem put_comm (hk : k ∈ keys m) {other : String} (hne : other ≠ k) (v w : α) :
    put k v (put other w m) = put other w (put k v m) := by
  induction m with
  | nil => cases hk
  | cons p r ih =>
    by_cases hp : p.1 = k
    · simp [put, hp, Ne.symm hne]
    · have hr : k ∈ keys r := (List.mem_cons.1 hk).resolve_left (Ne.symm hp)
      by_cases hother : p.1 = other
      · simp [put, hother, hne]
      · simp [put, hp, hother, ih hr]

theorem update_put_of_mem (hk : k ∈ keys m) (hn : k ∉ keys n) (v : α) :
    update (put k v m) n = put k v (update m n) := by
  induction n generalizing m with
  | nil => rfl
  | cons p r ih =>
    rw [keys, List.map_cons, List.mem_cons, not_or] at hn
    have hput : k ∈ keys (put p.1 p.2 m) := by
      rw [keys_put]
      split
      · exact hk
      · exact List.mem_append_left _ hk
    rw [update, List.foldl_cons, ← put_comm hk (Ne.symm hn.1)]
    exact ih hput hn.2

theorem update_put (hn : (keys n).Nodup) (v : α) : update m (put k v n) = put k v (update m n) := by
  induction n generalizing m with
  | nil => rfl
  | cons p r ih =>
    obtain ⟨hp, hr⟩ := List.nodup_cons.1 hn
    by_cases hk : p.1 = k
    · subst hk
      have hmem : p.1 ∈ keys (put p.1 p.2 m) := mem_keys_iff_get?.2 ⟨p.2, by simp [get?_put]⟩
      rw [put, if_pos rfl, update, List.foldl_cons, ← put_put p.1 p.2 v m]
      exact update_put_of_mem hmem hp v
    · rw [put, if_neg hk]
      exact ih hr

theorem ofPairs_concat (pairs : List (String × α)) (p : String × α) :
    ofPairs (pairs ++ [p]) = put p.1 p.2 (ofPairs pairs) := by
  simp [ofPairs]

theorem nodup_keys_ofPairs (pairs : List (String × α)) : (keys (ofPairs pairs)).Nodup := by
  induction pairs using List.reverseRecOn with
  | nil => exact List.nodup_nil
  | append_singleton pairs p ih =>
    rw [ofPairs_concat]
    exact nodup_keys_put ih

theorem ofPairs_append (pairs more : List (String × α)) :
    ofPairs (pairs ++ more) = update (ofPairs pairs) (ofPairs more) := by
  induction more using List.reverseRecOn with
  | nil => rw [List.append_nil]; rfl
  | append_singleton more p ih =>
    rw [← List.append_assoc, ofPairs_concat, ofPairs_concat, ih,
      update_put (nodup_keys_ofPairs more)]

end Assoc

namespace Source

open Text

/-- A name that an import statement lists. -/
inductive Import where
  /-- A module by itself. -/
  | module (name : ImportedName)
  /-- What a module, perhaps given by dots, has under a name; a star stands for all of it. -/
  | member (origin : String) (level : Nat) (name : ImportedName)

/-- The names that a statement imports, one after the other. -/
def Stmt.imports : Stmt → List Import
  | .import names => names.map .module
  | .importFrom origin names level => names.map (.member origin level)
  | _ => []

/-- The part of a dotted name up to its first dot. -/
def IsFirstPart (name part : String) : Prop :=
  '.' ∉ part.toList ∧ (name = part ∨ ∃ rest, name = part ++ "." ++ rest)

/-- What the module `module` has under a name. -/
inductive Qualified : (module name target : String) → Prop
  | unnamed {name : String} : Qualified "" name name
  | named {module name : String} (hmodule : module ≠ "") :
      Qualified module name (module ++ "." ++ name)

/-- The module that an import in `importing` names: as it stands, or with dots from there. -/
inductive Origin (importing : String) : (origin : String) → (level : Nat) → (module : String) → Prop
  | absolute {origin : String} : Origin importing origin 0 origin
  | relative {origin : String} {level : Nat} (hlevel : level ≠ 0) :
      Origin importing origin level (ModuleName.resolveRelative importing origin level)

/-- No second name is given. -/
def Plain (second : Option String) : Prop := second = none ∨ second = some ""

/-- An import in the module `importing` binds a name to a target. A second name is bound to what is
imported. Without one, a module binds its first part alone, and a member the name that it has; a
star binds nothing. -/
inductive Import.Binds (importing : String) : Import → (key target : String) → Prop
  | moduleAs {name key : String} (hkey : key ≠ "") :
      Binds importing (.module ⟨name, some key⟩) key name
  | module {name part : String} {second : Option String} (hsecond : Plain second)
      (hpart : IsFirstPart name part) : Binds importing (.module ⟨name, second⟩) part part
  | memberAs {origin name key module target : String} {level : Nat} (hkey : key ≠ "")
      (hstar : name ≠ "*") (horigin : Origin importing origin level module)
      (htarget : Qualified module name target) :
      Binds importing (.member origin level ⟨name, some key⟩) key target
  | member {origin name module target : String} {level : Nat} {second : Option String}
      (hsecond : Plain second) (hstar : name ≠ "*") (horigin : Origin importing origin level module)
      (htarget : Qualified module name target) :
      Binds importing (.member origin level ⟨name, second⟩) name target

/-- An import binds a name to something. -/
def Import.Names (importing : String) (i : Import) (key : String) : Prop :=
  ∃ target, i.Binds importing key target

/-- Of these imports the last one that binds a name binds it to the target. -/
def LastBinds (importing : String) (imports : List Import) (key target : String) : Prop :=
  ∃ before i after, imports = before ++ i :: after ∧ i.Binds importing key target ∧
    ∀ j ∈ after, ¬j.Names importing key

/-- These imports bind one name before they bind the other one at all. -/
def BindsBefore (importing : String) (imports : List Import) (key other : String) : Prop :=
  ∃ before i after, imports = before ++ i :: after ∧ i.Names importing key ∧
    ∀ j ∈ before ++ [i], ¬j.Names importing other

/-- A table tells what imports bind: the bound names, in the order in which they are first bound,
with what they are bound to last. -/
structure Tells (importing : String) (imports : List Import) (aliases : Aliases) : Prop where
  mem_keys : ∀ key, key ∈ Assoc.keys aliases ↔ ∃ i ∈ imports, i.Names importing key
  get? : ∀ key target, Assoc.get? key aliases = some target ↔ LastBinds importing imports key target
  order : (Assoc.keys aliases).Pairwise (BindsBefore importing imports)

/-- The statements of a source text; none where it cannot be read. -/
def statements (source : String) : List Stmt := (Parser.parse? source).getD []

variable {importing : String} {imports : List Import} {aliases : Aliases} {i : Import}
  {key target : String}

theorem isFirstPart_iff {name part : String} : IsFirstPart name part ↔ firstPart name = part := by
  have hhead {r : List Char} (hpart : '.' ∉ part.toList) (hname : name.toList = part.toList ++ r)
      (hr : r = [] ∨ ∃ rest, r = '.' :: rest) : firstPart name = part := by
    rw [firstPart, splitString, hname]
    obtain rfl | ⟨rest, rfl⟩ := hr
    · rw [List.append_nil, splitAt_of_notMem hpart]
      exact String.ofList_toList
    · rw [splitAt_append hpart]
      exact String.ofList_toList
  constructor
  · rintro ⟨hpart, rfl | ⟨rest, rfl⟩⟩
    · exact hhead hpart (List.append_nil _).symm (.inl rfl)
    · exact hhead hpart (by simp) (.inr ⟨rest.toList, rfl⟩)
  · rintro rfl
    by_cases hdot : '.' ∈ name.toList
    · obtain ⟨part, rest, hname, hpart⟩ := List.eq_append_cons_of_mem hdot
      rw [firstPart, splitString, hname, splitAt_append hpart, List.map_cons, List.headD_cons]
      refine ⟨by rwa [String.toList_ofList], .inr ⟨String.ofList rest, ?_⟩⟩
      apply String.toList_inj.1
      simp [hname]
    · rw [firstPart, splitString, splitAt_of_notMem hdot, List.map_singleton, List.headD_cons,
        String.ofList_toList]
      exact ⟨hdot, .inl rfl⟩

theorem qualified_iff {module name target : String} : Qualified module name target ↔
    (if module = "" then name else module ++ "." ++ name) = target := by
  constructor
  · rintro (_ | hmodule)
    · rw [if_pos rfl]
    · rw [if_neg hmodule]
  · rintro rfl
    split
    · rename_i h
      exact h ▸ .unnamed
    · rename_i h
      exact .named h

theorem origin_iff {origin module : String} {level : Nat} : Origin importing origin level module ↔
    (if level = 0 then origin else ModuleName.resolveRelative importing origin level) = module := by
  constructor
  · rintro (_ | hlevel)
    · rw [if_pos rfl]
    · rw [if_neg hlevel]
  · rintro rfl
    split
    · rename_i h
      exact h ▸ .absolute
    · rename_i h
      exact .relative h

theorem nonEmpty_eq_none {second : Option String} : nonEmpty second = none ↔ Plain second := by
  cases second <;> simp [nonEmpty, Plain]

theorem nonEmpty_eq_some {second : Option String} :
    nonEmpty second = some key ↔ second = some key ∧ key ≠ "" := by
  simp [nonEmpty, Option.filter_eq_some_iff]

/-- The binding of an import, if it has one. -/
def Import.binding? (importing : String) : Import → Option (String × String)
  | .module n => some n.binding
  | .member origin level n =>
    n.bindingFrom (if level = 0 then origin else ModuleName.resolveRelative importing origin level)

theorem bindings_eq (importing : String) (s : Stmt) :
    s.bindings importing = s.imports.filterMap (Import.binding? importing) := by
  cases s with
  | «import» names =>
      rw [Stmt.bindings, Stmt.imports, List.filterMap_map, ← List.filterMap_eq_map]
      rfl
  | importFrom origin names level =>
      rw [Stmt.bindings, Stmt.imports, List.filterMap_map]
      rfl
  | _ => rfl

theorem binds_iff : i.Binds importing key target ↔ i.binding? importing = some (key, target) := by
  constructor
  · intro h
    cases h with
    | moduleAs hkey =>
        simp [Import.binding?, ImportedName.binding, nonEmpty_eq_some.2 ⟨rfl, hkey⟩]
    | module hsecond hpart =>
        simp [Import.binding?, ImportedName.binding, nonEmpty_eq_none.2 hsecond,
          isFirstPart_iff.1 hpart]
    | memberAs hkey hstar horigin htarget =>
        rw [Import.binding?, origin_iff.1 horigin, ImportedName.bindingFrom, if_neg hstar,
          qualified_iff.1 htarget, nonEmpty_eq_some.2 ⟨rfl, hkey⟩]
        rfl
    | member hsecond hstar horigin htarget =>
        rw [Import.binding?, origin_iff.1 horigin, ImportedName.bindingFrom, if_neg hstar,
          qualified_iff.1 htarget, nonEmpty_eq_none.2 hsecond]
        rfl
  · intro h
    cases i with
    | module n =>
        obtain ⟨name, second⟩ := n
        cases hsecond : nonEmpty second with
        | none =>
            simp only [Import.binding?, ImportedName.binding, hsecond] at h
            cases h
            exact .module (nonEmpty_eq_none.1 hsecond) (isFirstPart_iff.2 rfl)
        | some a =>
            simp only [Import.binding?, ImportedName.binding, hsecond] at h
            cases h
            obtain ⟨rfl, hkey⟩ := nonEmpty_eq_some.1 hsecond
            exact .moduleAs hkey
    | member origin level n =>
        obtain ⟨name, second⟩ := n
        rw [Import.binding?, ImportedName.bindingFrom] at h
        split at h
        · cases h
        · rename_i hstar
          cases hsecond : nonEmpty second with
          | none =>
              rw [hsecond] at h
              cases h
              exact .member (nonEmpty_eq_none.1 hsecond) hstar (origin_iff.2 rfl)
                (qualified_iff.2 rfl)
          | some a =>
              rw [hsecond] at h
              cases h
              obtain ⟨rfl, hkey⟩ := nonEmpty_eq_some.1 hsecond
              exact .memberAs hkey hstar (origin_iff.2 rfl) (qualified_iff.2 rfl)

/-- An import binds one name to one target at most. -/
theorem Import.Binds.unique {key' target' : String} (h : i.Binds importing key target)
    (h' : i.Binds importing key' target') : key' = key ∧ target' = target := by
  have heq := (binds_iff.1 h').symm.trans (binds_iff.1 h)
  exact ⟨congrArg Prod.fst (Option.some.inj heq), congrArg Prod.snd (Option.some.inj heq)⟩

theorem Import.Binds.names_iff (h : i.Binds importing key target) {other : String} :
    i.Names importing other ↔ other = key :=
  ⟨fun ⟨_, hother⟩ => (h.unique hother).1, fun heq => heq ▸ ⟨target, h⟩⟩

theorem not_names (h : i.binding? importing = none) : ¬i.Names importing key := by
  rintro ⟨target, hbinds⟩
  cases h.symm.trans (binds_iff.1 hbinds)

/-- What is bound last after one more import: what this one binds, if it binds the name. -/
theorem lastBinds_concat : LastBinds importing (imports ++ [i]) key target ↔
    i.Binds importing key target ∨
      ¬i.Names importing key ∧ LastBinds importing imports key target := by
  constructor
  · rintro ⟨before, j, after, himports, hj, hafter⟩
    rcases List.eq_nil_or_concat after with rfl | ⟨after, x, rfl⟩
    · obtain ⟨-, heq⟩ := List.append_inj' himports rfl
      cases heq
      exact .inl hj
    · rw [List.concat_eq_append] at himports hafter
      rw [← List.cons_append, ← List.append_assoc] at himports
      obtain ⟨rfl, heq⟩ := List.append_inj' himports rfl
      cases heq
      obtain ⟨hafter, hi⟩ := List.forall_mem_append.1 hafter
      exact .inr ⟨hi i (List.mem_singleton_self i), before, j, after, rfl, hj, hafter⟩
  · rintro (hi | ⟨hi, before, j, after, rfl, hj, hafter⟩)
    · exact ⟨imports, i, [], rfl, hi, List.forall_mem_nil _⟩
    · exact ⟨before, j, after ++ [i], by simp, hj,
        List.forall_mem_append.2 ⟨hafter, List.forall_mem_singleton.2 hi⟩⟩

theorem BindsBefore.concat {other : String} (h : BindsBefore importing imports key other)
    (i : Import) : BindsBefore importing (imports ++ [i]) key other := by
  obtain ⟨before, j, after, rfl, hkey, hother⟩ := h
  exact ⟨before, j, after ++ [i], by simp, hkey, hother⟩

theorem tells_nil (importing : String) : Tells importing [] [] where
  mem_keys key := by simp [Assoc.keys]
  get? key target := by simp [LastBinds]
  order := List.Pairwise.nil

/-- An import that binds nothing changes nothing. -/
theorem Tells.skip (h : Tells importing imports aliases) (hi : i.binding? importing = none) :
    Tells importing (imports ++ [i]) aliases where
  mem_keys key := by
    rw [h.mem_keys]
    simp [or_and_right, exists_or, not_names hi]
  get? key target := by
    rw [h.get?, lastBinds_concat, binds_iff, hi]
    simp [not_names hi]
  order := h.order.imp fun hbefore => hbefore.concat i

/-- An import that binds a name puts what it is bound to under this name: a bound name keeps its
place, and another one comes after those that are bound. -/
theorem Tells.put (h : Tells importing imports aliases) (hi : i.Binds importing key target) :
    Tells importing (imports ++ [i]) (Assoc.put key target aliases) where
  mem_keys other := by
    have hkeys : other ∈ Assoc.keys (Assoc.put key target aliases) ↔
        other ∈ Assoc.keys aliases ∨ other = key := by
      rw [Assoc.keys_put]
      split
      · rename_i hmem
        exact ⟨.inl, fun hor => hor.elim id fun heq => heq ▸ hmem⟩
      · rw [List.mem_append, List.mem_singleton]
    rw [hkeys, h.mem_keys]
    simp [or_and_right, exists_or, hi.names_iff]
  get? other target' := by
    rw [Assoc.get?_put, lastBinds_concat, hi.names_iff]
    by_cases hkey : key = other
    · subst hkey
      have hlast : i.Binds importing key target' ↔ target = target' :=
        ⟨fun hbinds => (hbinds.unique hi).2, fun heq => heq ▸ hi⟩
      simp [hlast]
    · have hnot : ¬i.Binds importing other target' := fun hbinds =>
        hkey (hi.names_iff.1 ⟨_, hbinds⟩).symm
      simp [hkey, hnot, Ne.symm hkey, h.get?]
  order := by
    have horder := h.order.imp fun hbefore => hbefore.concat i
    rw [Assoc.keys_put]
    split
    · exact horder
    · rename_i hnew
      refine List.pairwise_append.2 ⟨horder, List.pairwise_singleton _ _, ?_⟩
      intro other hother k hk
      obtain rfl := List.mem_singleton.1 hk
      obtain ⟨j, hj, hnames⟩ := (h.mem_keys other).1 hother
      -- nothing before the new import binds the new name
      have hnone : ∀ j ∈ imports, ¬j.Names importing k := fun j hj hbinds =>
        hnew ((h.mem_keys k).2 ⟨j, hj, hbinds⟩)
      obtain ⟨before, after, rfl⟩ := List.append_of_mem hj
      refine ⟨before, j, after ++ [i], by simp, hnames, fun x hx => hnone x ?_⟩
      rw [List.append_cons]
      exact List.mem_append_left _ hx

theorem tells_ofPairs (importing : String) (imports : List Import) :
    Tells importing imports (Assoc.ofPairs (imports.filterMap (Import.binding? importing))) := by
  induction imports using List.reverseRecOn with
  | nil => exact tells_nil importing
  | append_singleton imports i ih =>
    rw [List.filterMap_append]
    cases hi : i.binding? importing with
    | none =>
        rw [List.filterMap_cons_none hi, List.filterMap_nil, List.append_nil]
        exact ih.skip hi
    | some p =>
        rw [List.filterMap_cons_some hi, List.filterMap_nil, Assoc.ofPairs_concat]
        exact ih.put (binds_iff.2 hi)

theorem aliasesOf_eq (importing : String) (body : List Stmt) : aliasesOf importing body =
    Assoc.ofPairs ((body.flatMap Stmt.imports).filterMap (Import.binding? importing)) := by
  rw [aliasesOf, List.filterMap_flatMap]
  simp only [funext (bindings_eq importing)]

theorem tells_aliasesOf (importing : String) (body : List Stmt) :
    Tells importing (body.flatMap Stmt.imports) (aliasesOf importing body) := by
  rw [aliasesOf_eq]
  exact tells_ofPairs importing _

theorem aliasesOf_append (importing : String) (body more : List Stmt) :
    aliasesOf importing (body ++ more) =
      Assoc.update (aliasesOf importing body) (aliasesOf importing more) := by
  rw [aliasesOf, List.flatMap_append, Assoc.ofPairs_append]
  rfl

theorem importAliases_eq (importing source : String) :
    importAliases importing source = aliasesOf importing (statements source) := by
  rw [importAliases, statements]
  cases Parser.parse? source <;> rfl

/-- The table of a source text tells what the imports among its statements bind, and so for any
statements; further statements update the table with their own one. -/
theorem importAliases_tells (importing : String) :
    (∀ source, Tells importing ((statements source).flatMap Stmt.imports)
      (importAliases importing source)) ∧
    (∀ body, Tells importing (body.flatMap Stmt.imports) (aliasesOf importing body)) ∧
    (∀ source first second, statements source = statements first ++ statements second →
      importAliases importing source =
        Assoc.update (importAliases importing first) (importAliases importing second)) ∧
    ∀ body more, aliasesOf importing (body ++ more) =
      Assoc.update (aliasesOf importing body) (aliasesOf importing more) := by
  refine ⟨fun source => ?_, tells_aliasesOf importing, fun source first second h => ?_,
    aliasesOf_append importing⟩
  · rw [importAliases_eq]
    exact tells_aliasesOf importing _
  · rw [importAliases_eq, h, aliasesOf_append, importAliases_eq, importAliases_eq]

/-- The names of an import of modules. -/
def Stmt.importedNames? : Stmt → Option (List ImportedName)
  | .import names => some names
  | _ => none

theorem eq_map_import {body : List Stmt} {names : List (List ImportedName)}
    (h : body.map Stmt.importedNames? = names.map some) : body = names.map Stmt.import := by
  induction body generalizing names with
  | nil => cases names <;> simp at h ⊢
  | cons stmt body ih =>
      cases names with
      | nil => simp at h
      | cons n names =>
          rw [List.map_cons, List.map_cons, List.cons.injEq] at h
          rw [List.map_cons, ih h.2]
          cases stmt <;> simp_all [Stmt.importedNames?]

theorem importAliases_tells_rebound :
    statements "import os.path, re as r\nimport lib as os\n" =
        statements "import os.path, re as r\n" ++ statements "import lib as os\n" ∧
    importAliases "app.web" "import os.path, re as r\nimport lib as os\n" =
      Assoc.update [("os", "os"), ("r", "re")] [("os", "lib")] := by
  have hfirst := @eq_map_import (statements "import os.path, re as r\n")
    [[⟨"os.path", none⟩, ⟨"re", some "r"⟩]] (by decide +kernel)
  have hsecond := @eq_map_import (statements "import lib as os\n") [[⟨"lib", some "os"⟩]]
    (by decide +kernel)
  have hboth := @eq_map_import (statements "import os.path, re as r\nimport lib as os\n")
    [[⟨"os.path", none⟩, ⟨"re", some "r"⟩], [⟨"lib", some "os"⟩]] (by decide +kernel)
  have hstatements : statements "import os.path, re as r\nimport lib as os\n" =
      statements "import os.path, re as r\n" ++ statements "import lib as os\n" := by
    rw [hfirst, hsecond, hboth, ← List.map_append]
    rfl
  obtain ⟨-, -, hupdate, -⟩ := importAliases_tells "app.web"
  refine ⟨hstatements, (hupdate _ _ _ hstatements).trans (congrArg₂ _ ?_ ?_)⟩
  · decide +kernel
  · decide +kernel

end Source
end Exposure
