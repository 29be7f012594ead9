import Exposure.Artifact.Change
import Exposure.Proofs.Artifact.Loading
import Exposure.Proofs.Table
import Mathlib.Data.String.Basic

/-!
The names whose records differ between two artifacts. They are exactly the names at which the tables
of the loaded indexes differ, each listed once and in order, whichever artifact comes first; for
an artifact that cannot be read there are none.
-/
namespace Exposure

namespace Artifact

section SortNames

variable {name : String} {names others : List String}

@[simp] theorem mem_sortNames : name ∈ sortNames names ↔ name ∈ names := by
  rw [sortNames, List.mem_eraseDups, List.mem_mergeSort]

theorem eraseDups_pairwise (n : Nat) {names : List String} (hn : names.length ≤ n)
    (h : names.Pairwise (· ≤ ·)) : names.eraseDups.Pairwise (· < ·) := by
  -- Behind a name all its repetitions are gone, so what is gone through is no tail of the list.
  induction n generalizing names with
  | zero =>
      rw [List.eq_nil_of_length_eq_zero (Nat.le_zero.1 hn), List.eraseDups_nil]
      exact .nil
  | succ n ih =>
      cases names with
      | nil =>
          rw [List.eraseDups_nil]
          exact .nil
      | cons name rest =>
          obtain ⟨hname, hrest⟩ := List.pairwise_cons.1 h
          rw [List.eraseDups_cons, List.pairwise_cons]
          constructor
          · intro other hother
            obtain ⟨hmem, hne⟩ := List.mem_filter.1 (List.mem_eraseDups.1 hother)
            exact lt_of_le_of_ne (hname other hmem) fun heq => by simp [heq] at hne
          · refine ih ?_ (hrest.filter _)
            exact (List.length_filter_le _ _).trans (Nat.le_of_succ_le_succ hn)

/-- The names stand in strict order, and so each of them once. -/
theorem sortNames_pairwise (names : List String) : (sortNames names).Pairwise (· < ·) := by
  refine eraseDups_pairwise _ le_rfl ?_
  have hle : (names.mergeSort fun a b => !(b < a)).Pairwise fun a b => (!(b < a)) = true := by
    refine List.pairwise_mergeSort (fun a b c hab hbc => ?_) (fun a b => ?_) names
    · simp only [Bool.not_eq_true', decide_eq_false_iff_not, not_lt] at hab hbc ⊢
      exact hab.trans hbc
    · simp only [Bool.or_eq_true, Bool.not_eq_true', decide_eq_false_iff_not, not_lt]
      exact le_total _ _
  refine hle.imp fun {a b} hab => ?_
  simpa only [Bool.not_eq_true', decide_eq_false_iff_not, not_lt] using hab

theorem sortNames_congr (h : ∀ name, name ∈ names ↔ name ∈ others) :
    sortNames names = sortNames others := by
  have hnodup (names : List String) : (sortNames names).Nodup :=
    (sortNames_pairwise names).imp fun {a b} hlt (heq : a = b) => absurd hlt (heq ▸ lt_irrefl _)
  refine List.Perm.eq_of_pairwise (fun a b _ _ hab hba => absurd hab (lt_asymm hba))
    (sortNames_pairwise names) (sortNames_pairwise others) ?_
  refine (List.perm_ext_iff_of_nodup (hnodup names) (hnodup others)).2 fun name => ?_
  rw [mem_sortNames, mem_sortNames, h]

theorem sortNames_eq_nil_iff : sortNames names = [] ↔ ∀ name, name ∉ names := by
  simp only [List.eq_nil_iff_forall_not_mem, mem_sortNames]

end SortNames

theorem mem_differingNames {α : Type} {same : α → α → Bool} {before after : Table α}
    {name : String} :
    name ∈ differingNames same before after ↔
      before.DiffersAt (fun r s => same r s = true) after name := by
  rw [differingNames, List.mem_append, List.mem_filter, List.mem_filter, Table.mem_keys_iff,
    Table.mem_keys_iff, Table.contains, Table.DiffersAt]
  cases before.get? name <;> cases after.get? name <;> simp

end Artifact

namespace Schema

open Checked

/-- Reading an object of texts keeps its keys. -/
theorem keys_of_stringMap {v : Json} {ps : List (String × String)} (h : stringMap v = .valid ps) :
    ∃ ms, v = .object ms ∧ Assoc.keys ps = Assoc.keys ms := by
  cases v with
  | object ms =>
      refine ⟨ms, rfl, ?_⟩
      rw [stringMap] at h
      induction ms generalizing ps with
      | nil =>
          cases h
          rfl
      | cons m ms ih =>
          obtain ⟨key, v⟩ := m
          cases v with
          | string s =>
              rw [Checked.all] at h
              generalize hrest : Checked.all
                (fun m : String × Json => under m.1 ((string m.2).map fun s => (m.1, s))) ms =
                  rest at h
              cases rest with
              | valid qs =>
                  cases h
                  exact congrArg (key :: ·) (ih hrest)
              | invalid is => cases h
          | null | bool _ | int _ | float _ | array _ | object _ =>
              rw [Checked.all] at h
              generalize Checked.all
                (fun m : String × Json => under m.1 ((string m.2).map fun s => (m.1, s))) ms =
                  rest at h
              cases rest <;> cases h
  | null | bool _ | int _ | float _ | string _ | array _ => cases h

theorem gives_stringMap {keys : List String} {ms : List (String × Json)}
    (hd : Json.DistinctMembers ms) :
    Gives (fun ps => (Assoc.keys ps).Nodup) (optional keys stringMap [] ms) := by
  intro ps h
  unfold optional at h
  split at h
  · rename_i key v hfound
    obtain ⟨k, -, hk⟩ := List.exists_of_findSome?_eq_some hfound
    obtain ⟨v', hget, hpair⟩ := Option.map_eq_some_iff.1 hk
    cases hpair
    cases hread : stringMap v with
    | invalid is =>
        rw [hread] at h
        cases h
    | valid qs =>
        rw [hread] at h
        cases h
        obtain ⟨inner, rfl, hkeys⟩ := keys_of_stringMap hread
        rw [hkeys]
        exact (hd.get? hget inner rfl).nodup_keys
  · cases h
    exact List.nodup_nil

end Schema

namespace ClassRecord

open Schema.Checked in
/-- The import names of a record that is read from an object without repeated keys are distinct. -/
theorem nodup_imports_ofMembers {name : String} {ms : List (String × Json)}
    (hd : Json.DistinctMembers ms) {r : ClassRecord} (h : ofMembers name ms = .ok r) :
    (Assoc.keys r.importAliases).Nodup := by
  have hfiled := hd.put "qualified_name" (Json.distinct_of_members?_eq_none (v := .string name) rfl)
  refine Gives.toExcept (P := fun r => (Assoc.keys r.importAliases).Nodup) ?_ h
  -- Only the import names are looked at; the fields before and behind them may be anything.
  refine .seq (.seq_of ?_ (Schema.gives_stringMap hfiled)) _
  iterate 3 refine .seq ?_ _
  exact .map (by intros; assumption) _

/-- The records have the same facts, and the same import names in whatever order. -/
structure Alike (r s : ClassRecord) : Prop where
  facts : { r with importAliases := [] } = { s with importAliases := [] }
  imports : ∀ key, Assoc.get? key r.importAliases = Assoc.get? key s.importAliases

theorem Alike.symm {r s : ClassRecord} (h : r.Alike s) : s.Alike r :=
  ⟨h.facts.symm, fun key => (h.imports key).symm⟩

theorem same_iff_alike {r s : ClassRecord} (hr : (Assoc.keys r.importAliases).Nodup)
    (hs : (Assoc.keys s.importAliases).Nodup) : r.same s = true ↔ r.Alike s := by
  have himports := Assoc.forall_get?_eq_iff hr hs
  simp only [same, Bool.and_eq_true, beq_iff_eq, List.all_eq_true, and_assoc]
  rw [← himports]
  exact ⟨fun h => ⟨h.1, h.2⟩, fun h => ⟨h.facts, h.imports⟩⟩

end ClassRecord

namespace Artifact

section Loaded

variable {ms : List (String × Json)} {i : Index}

/-- A record of a table that was read is the reading of a member, or of nothing. -/
theorem mem_of_readRecords {α : Type}
    {read : String → List (String × Json) → Except Schema.Report α} {xs : List (String × Json)}
    {t : Table α} (h : readRecords read xs = .ok t) {name : String} {r : α}
    (hr : t.get? name = some r) :
    ∃ inner, (inner = [] ∨ (name, .object inner) ∈ xs) ∧ read name inner = .ok r := by
  induction xs using List.reverseRecOn generalizing t with
  | nil =>
      cases h
      cases hr
  | append_singleton xs m ih =>
      unfold readRecords at h ih
      rw [List.foldlM_append] at h
      obtain ⟨t', ht', h⟩ := bind_eq_ok.1 h
      rw [List.foldlM_cons] at h
      obtain ⟨t'', hlast, h⟩ := bind_eq_ok.1 h
      cases h
      -- The loader takes an empty member, of whatever kind, for an empty object.
      have hobject (inner : List (String × Json))
          (hv : (if m.2.truthy then m.2 else .object []) = Json.object inner) :
          inner = [] ∨ m.2 = .object inner := by
        split at hv
        · exact .inr hv
        · cases hv
          exact .inl rfl
      generalize (if m.2.truthy then m.2 else .object []) = v at hlast hobject
      obtain ⟨inner, last, rfl, hread, rfl⟩ : ∃ inner last, v = .object inner ∧
          read m.1 inner = .ok last ∧ t = t'.insert m.1 last := by
        cases v with
        | object inner =>
            cases hread : read m.1 inner with
            | error report => simp [bind, Except.bind, hread] at hlast
            | ok last =>
                simp only [bind, Except.bind, hread, Except.ok.injEq] at hlast
                exact ⟨inner, last, rfl, hread, hlast.symm⟩
        | null | bool _ | int _ | float _ | string _ | array _ => cases hlast
      rw [Table.get?_insert] at hr
      split at hr
      · rename_i hname
        cases hr
        subst hname
        refine ⟨inner, (hobject inner rfl).imp_right fun hm => ?_, hread⟩
        exact List.mem_append_right _ (List.mem_singleton.2 (Prod.ext rfl hm.symm))
      · obtain ⟨found, hfound, hr⟩ := ih ht' hr
        exact ⟨found, hfound.imp_right (List.mem_append_left _), hr⟩

theorem distinct_content (hd : Json.DistinctMembers ms) (key : String) :
    (content key ms).Distinct := by
  have hempty : (Json.object []).Distinct := fun inner hinner => by
    cases hinner
    exact .nil
  rw [content]
  cases hv : Assoc.get? key ms with
  | none => exact hempty
  | some v =>
      dsimp only
      split
      · exact hd.get? hv
      · exact hempty

/-- The classes of an index that was read have no import name twice. -/
theorem nodup_imports_of_toIndex (hd : Json.DistinctMembers ms) (h : toIndex ms = .ok i)
    {name : String} {r : ClassRecord} (hr : i.classes.get? name = some r) :
    (Assoc.keys r.importAliases).Nodup := by
  simp only [toIndex, bind_eq_ok] at h
  obtain ⟨_, -, _, -, classes, hclasses, _, -, hi⟩ := h
  cases hi
  have hcontent := distinct_content hd classesKey
  cases hv : content classesKey ms with
  | object records =>
      rw [hv] at hclasses hcontent
      obtain ⟨inner, hinner, hread⟩ := mem_of_readRecords hclasses hr
      have hrecords : Json.DistinctMembers records := hcontent records rfl
      refine ClassRecord.nodup_imports_ofMembers ?_ hread
      rcases hinner with rfl | hmem
      · exact .nil
      · exact hrecords.get? (Assoc.get?_of_mem hrecords.nodup_keys hmem) inner rfl
  | null | bool _ | int _ | float _ | string _ | array _ =>
      rw [hv] at hclasses
      cases hclasses

end Loaded

section Loading

variable {p q : Path} {before after : ByteArray} {b a : Index}

theorem toIndex_of_ofBytes (h : ofBytes p before = .ok b) :
    ∃ ms, Json.DistinctMembers ms ∧ toIndex ms = .ok b := by
  unfold ofBytes at h
  split at h
  · cases h
  · rename_i ms hread
    unfold ofMembers at h
    split at h
    · cases h
      exact ⟨ms, Json.distinct_ofBytes? hread ms rfl, by assumption⟩
    · cases h
  · cases h

/-- Bytes that are not read as an index are there all the same. -/
theorem isNotFound_of_ofBytes {e : LoadError} (h : ofBytes p before = .error e) :
    e.isNotFound = false := by
  unfold ofBytes ofMembers at h
  split at h
  · cases h
    rfl
  · split at h <;> cases h
    rfl
  · cases h
    rfl

theorem changedSymbols_of_unreadable
    (h : (∀ b, ofBytes p before ≠ .ok b) ∨ ∀ a, ofBytes q after ≠ .ok a) :
    changedSymbols (ofBytes p before) (ofBytes q after) = .ok [] := by
  cases hb : ofBytes p before with
  | error e => simp [changedSymbols, isNotFound_of_ofBytes hb]
  | ok b =>
      cases ha : ofBytes q after with
      | error e => simp [changedSymbols, isNotFound_of_ofBytes ha]
      | ok a => exact (h.elim (· b hb) (· a ha)).elim

theorem mem_changedNames (hb : ofBytes p before = .ok b) (ha : ofBytes q after = .ok a)
    {name : String} :
    name ∈ changedNames b a ↔ b.classes.DiffersAt ClassRecord.Alike a.classes name ∨
      b.methods.DiffersAt Eq a.methods name := by
  obtain ⟨ms, hms, hb⟩ := toIndex_of_ofBytes hb
  obtain ⟨ns, hns, ha⟩ := toIndex_of_ofBytes ha
  rw [changedNames, mem_sortNames, List.mem_append, mem_differingNames, mem_differingNames]
  refine or_congr (Table.differsAt_congr fun r s hr hs => ?_)
    (Table.differsAt_congr fun r s _ _ => beq_iff_eq)
  exact ClassRecord.same_iff_alike (nodup_imports_of_toIndex hms hb hr)
    (nodup_imports_of_toIndex hns ha hs)

theorem changedNames_comm (hb : ofBytes p before = .ok b) (ha : ofBytes q after = .ok a) :
    changedNames a b = changedNames b a := by
  refine sortNames_congr fun name => ?_
  calc
    _ ↔ name ∈ changedNames a b := mem_sortNames.symm
    _ ↔ a.classes.DiffersAt ClassRecord.Alike b.classes name ∨
        a.methods.DiffersAt Eq b.methods name := mem_changedNames ha hb
    _ ↔ b.classes.DiffersAt ClassRecord.Alike a.classes name ∨
        b.methods.DiffersAt Eq a.methods name :=
      or_congr (Table.differsAt_comm fun _ _ => ClassRecord.Alike.symm)
        (Table.differsAt_comm fun _ _ => Eq.symm)
    _ ↔ name ∈ changedNames b a := (mem_changedNames hb ha).symm
    _ ↔ _ := mem_sortNames

theorem changedNames_eq_nil_iff :
    changedNames b a = [] ↔ b.classes.equivBy ClassRecord.same a.classes = true ∧
      b.methods.equivBy (fun r s => r == s) a.methods = true := by
  simp only [changedNames, sortNames_eq_nil_iff, List.mem_append, mem_differingNames, not_or,
    forall_and, Table.equivBy_iff]

/-- The changed symbols of two artifacts, be they readable or not, stand in strict order and do not
depend on which one comes first. Of two that are read they are the names at which the tables of
classes or those of methods differ, and there are none just if both tables are equal in whatever
order; if one cannot be read there are none. -/
theorem changedSymbols_ofBytes (p q : Path) (before after : ByteArray) :
    ∃ names, changedSymbols (ofBytes p before) (ofBytes q after) = .ok names ∧
      changedSymbols (ofBytes q after) (ofBytes p before) = .ok names ∧
      names.Pairwise (· < ·) ∧
      (∀ b a, ofBytes p before = .ok b → ofBytes q after = .ok a →
        (∀ name, name ∈ names ↔ b.classes.DiffersAt ClassRecord.Alike a.classes name ∨
          b.methods.DiffersAt Eq a.methods name) ∧
        (names = [] ↔ b.classes.equivBy ClassRecord.same a.classes = true ∧
          b.methods.equivBy (fun r s => r == s) a.methods = true)) ∧
      ((∀ b, ofBytes p before ≠ .ok b) ∨ (∀ a, ofBytes q after ≠ .ok a) → names = []) := by
  by_cases hread : ∃ b a, ofBytes p before = .ok b ∧ ofBytes q after = .ok a
  · obtain ⟨b, a, hb, ha⟩ := hread
    refine ⟨changedNames b a, by rw [hb, ha]; rfl, ?_, sortNames_pairwise _, ?_, ?_⟩
    · rw [hb, ha, changedSymbols, changedNames_comm hb ha]
    · rintro b' a' hb' ha'
      cases hb.symm.trans hb'
      cases ha.symm.trans ha'
      exact ⟨fun name => mem_changedNames hb ha, changedNames_eq_nil_iff⟩
    · rintro (hnone | hnone)
      · exact absurd hb (hnone b)
      · exact absurd ha (hnone a)
  · have hunreadable : (∀ b, ofBytes p before ≠ .ok b) ∨ ∀ a, ofBytes q after ≠ .ok a := by
      by_contra hboth
      simp only [ne_eq, not_or, not_forall, not_not] at hboth
      obtain ⟨⟨b, hb⟩, a, ha⟩ := hboth
      exact hread ⟨b, a, hb, ha⟩
    refine ⟨[], changedSymbols_of_unreadable hunreadable,
      changedSymbols_of_unreadable hunreadable.symm, .nil, fun b a hb ha => ?_, fun _ => rfl⟩
    exact absurd ⟨b, a, hb, ha⟩ hread

end Loading

/-- An artifact with a class under a purpose. -/
def plainText : String :=
  "\x7b\"purposes\":\x7b\"LOG\":\x7b\"#\":[\"Log\"]\x7d\x7d," ++
  "\"classes\":\x7b\"Log\":\x7b\"imports\":\x7b\"a\":\"m.a\",\"b\":\"m.b\"\x7d\x7d\x7d\x7d"

/-- The same class without a purpose, with a flag that is spelled out, and in another order. -/
def spelledText : String :=
  "\x7b\"note\":null,\"classes\":\x7b\"Log\":\x7b\"is_abstract\":\"no\"," ++
  "\"imports\":\x7b\"b\":\"m.b\",\"a\":\"m.a\"\x7d\x7d\x7d\x7d"

/-- The class with an import of another name, and a second class. -/
def changedText : String :=
  "\x7b\"classes\":\x7b\"Stack\":\x7b\x7d,\"Log\":\x7b\"imports\":\x7b\"a\":\"m.c\"\x7d\x7d\x7d\x7d"

def plainIndex : Index where
  classPurposes := ⟨[("LOG", .object [(bucketKey, .array [.string "Log"])])]⟩
  classes := Table.empty.insert "Log"
    { qualifiedName := "Log", importAliases := [("a", "m.a"), ("b", "m.b")] }

def spelledIndex : Index where
  classes := Table.empty.insert "Log"
    { qualifiedName := "Log", importAliases := [("b", "m.b"), ("a", "m.a")] }

def changedIndex : Index where
  classes := (Table.empty.insert "Stack" { qualifiedName := "Stack" }).insert "Log"
    { qualifiedName := "Log", importAliases := [("a", "m.c")] }

theorem ofBytes_plainText (p : Path) : ofBytes p plainText.toUTF8 = .ok plainIndex := by
  have hread : Json.ofText? .word plainText = some (.object [
      ("purposes", .object [("LOG", .object [(bucketKey, .array [.string "Log"])])]),
      ("classes", .object [("Log", .object [
        ("imports", .object [("a", .string "m.a"), ("b", .string "m.b")])])])]) := by cbv
  rw [ofBytes, Json.ofBytes?_toUTF8, hread]
  rfl

theorem ofBytes_spelledText (p : Path) : ofBytes p spelledText.toUTF8 = .ok spelledIndex := by
  have hread : Json.ofText? .word spelledText = some (.object [
      ("note", .null),
      ("classes", .object [("Log", .object [("is_abstract", .string "no"),
        ("imports", .object [("b", .string "m.b"), ("a", .string "m.a")])])])]) := by cbv
  rw [ofBytes, Json.ofBytes?_toUTF8, hread]
  rfl

theorem ofBytes_changedText (p : Path) : ofBytes p changedText.toUTF8 = .ok changedIndex := by
  have hread : Json.ofText? .word changedText = some (.object [
      ("classes", .object [("Stack", .object []),
        ("Log", .object [("imports", .object [("a", .string "m.c")])])])]) := by cbv
  rw [ofBytes, Json.ofBytes?_toUTF8, hread]
  rfl

theorem changedSymbols_ofBytes_spelled :
    ofBytes (Path.ofString fileName) plainText.toUTF8 = .ok plainIndex ∧
    ofBytes (Path.ofString fileName) spelledText.toUTF8 = .ok spelledIndex ∧
    changedSymbols (ofBytes (Path.ofString fileName) plainText.toUTF8)
      (ofBytes (Path.ofString fileName) spelledText.toUTF8) = .ok [] ∧
    ofBytes (Path.ofString fileName) changedText.toUTF8 = .ok changedIndex ∧
    changedSymbols (ofBytes (Path.ofString fileName) plainText.toUTF8)
      (ofBytes (Path.ofString fileName) changedText.toUTF8) = .ok ["Log", "Stack"] ∧
    changedSymbols (ofBytes (Path.ofString fileName) changedText.toUTF8)
      (ofBytes (Path.ofString fileName) plainText.toUTF8) = .ok ["Log", "Stack"] ∧
    ∀ name, name ∈ ["Log", "Stack"] ↔
      plainIndex.classes.DiffersAt ClassRecord.Alike changedIndex.classes name ∨
        plainIndex.methods.DiffersAt Eq changedIndex.methods name := by
  have hplain := ofBytes_plainText (Path.ofString fileName)
  have hspelled := ofBytes_spelledText (Path.ofString fileName)
  have hchanged := ofBytes_changedText (Path.ofString fileName)
  obtain ⟨names, hnames, -, -, hread, -⟩ := changedSymbols_ofBytes (Path.ofString fileName)
    (Path.ofString fileName) plainText.toUTF8 spelledText.toUTF8
  obtain rfl : names = [] := (hread _ _ hplain hspelled).2.2 ⟨by decide, by decide⟩
  obtain ⟨names, hnames', hback, -, hread, -⟩ := changedSymbols_ofBytes (Path.ofString fileName)
    (Path.ofString fileName) plainText.toUTF8 changedText.toUTF8
  obtain rfl : names = ["Log", "Stack"] := by
    rw [hplain, hchanged] at hnames'
    cases hnames'
    have hdiffering : differingNames ClassRecord.same plainIndex.classes changedIndex.classes ++
        differingNames (fun r s => r == s) plainIndex.methods changedIndex.methods =
          ["Log", "Stack"] := by decide +kernel
    rw [changedNames, hdiffering, sortNames, List.mergeSort_of_pairwise (by decide)]
    decide
  exact ⟨hplain, hspelled, hnames, hchanged, hnames', hback, (hread _ _ hplain hchanged).1⟩

end Artifact
end Exposure
