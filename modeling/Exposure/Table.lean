import Exposure.Assoc

/-!
Tables: finite maps from names that keep the order of insertion, with no name listed twice. Two
tables are equivalent when they hold the same values under the same names, in whatever order.
-/
namespace Exposure

structure Table (α : Type) where
  entries : List (String × α)
  keys_nodup : (Assoc.keys entries).Nodup

namespace Table

variable {α β : Type}

def empty : Table α := ⟨[], by simp [Assoc.keys]⟩

instance : EmptyCollection (Table α) := ⟨empty⟩

instance : Inhabited (Table α) := ⟨empty⟩

def keys (t : Table α) : List String := Assoc.keys t.entries

def get? (t : Table α) (key : String) : Option α := Assoc.get? key t.entries

def contains (t : Table α) (key : String) : Bool := (t.get? key).isSome

def size (t : Table α) : Nat := t.entries.length

def insert (t : Table α) (key : String) (value : α) : Table α :=
  ⟨Assoc.put key value t.entries, Assoc.nodup_keys_put t.keys_nodup⟩

/-- Inserts the pairs one after the other into an empty table. -/
def ofList (pairs : List (String × α)) : Table α :=
  pairs.foldl (fun t p => t.insert p.1 p.2) empty

/-- The same keys with transformed values. -/
def mapValues (f : String → α → β) (t : Table α) : Table β :=
  ⟨t.entries.map fun p => (p.1, f p.1 p.2), by
    simpa [Assoc.keys, List.map_map, Function.comp_def] using t.keys_nodup⟩

/-- Same keys and values in whatever order. -/
def equivBy (same : α → α → Bool) (s t : Table α) : Bool :=
  s.size == t.size && s.entries.all fun p =>
    match t.get? p.1 with
    | some v => same p.2 v
    | none => false

theorem ext {s t : Table α} (h : s.entries = t.entries) : s = t := by
  cases s; cases t; cases h; rfl

@[simp] theorem get?_empty (key : String) : (empty : Table α).get? key = none := rfl

theorem get?_insert (t : Table α) (key other : String) (value : α) :
    (t.insert key value).get? other = if key = other then some value else t.get? other :=
  Assoc.get?_put key other value t.entries

theorem keys_insert (t : Table α) (key : String) (value : α) :
    (t.insert key value).keys = if key ∈ t.keys then t.keys else t.keys ++ [key] :=
  Assoc.keys_put key value t.entries

theorem mem_keys_iff {t : Table α} {key : String} : key ∈ t.keys ↔ ∃ v, t.get? key = some v :=
  Assoc.mem_keys_iff_get?

theorem entries_insert_of_notMem {t : Table α} {key : String} (h : key ∉ t.keys) (value : α) :
    (t.insert key value).entries = t.entries ++ [(key, value)] :=
  Assoc.put_of_notMem h value

theorem mem_entries_iff {t : Table α} {e : String × α} :
    e ∈ t.entries ↔ t.get? e.1 = some e.2 :=
  ⟨Assoc.get?_of_mem t.keys_nodup, Assoc.mem_of_get?⟩

theorem contains_insert (t : Table α) (key other : String) (value : α) :
    (t.insert key value).contains other = (key == other || t.contains other) := by
  rw [contains, get?_insert]
  by_cases h : key = other <;> simp [contains, h]

theorem get?_mapValues (f : String → α → β) (t : Table α) (key : String) :
    (t.mapValues f).get? key = (t.get? key).map (f key) :=
  Assoc.get?_map f key t.entries

theorem keys_mapValues (f : String → α → β) (t : Table α) : (t.mapValues f).keys = t.keys := by
  simp only [keys, mapValues, Assoc.keys, List.map_map, Function.comp_def]

theorem contains_mapValues (f : String → α → β) (t : Table α) (key : String) :
    (t.mapValues f).contains key = t.contains key := by
  rw [contains, get?_mapValues, Option.isSome_map, contains]

end Table
end Exposure
