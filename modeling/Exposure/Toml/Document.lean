import Exposure.Json.Basic

/-!
What a TOML document has said so far: the tables with their values, and the names that may not be
opened again. A table is declared once by a header; a value written inline is frozen with all that
is below it; the tables that a dotted key runs through are closed at the next header.
-/
namespace Exposure.Toml

/-- A dotted key. -/
abbrev Key := List String

/-- Names and their values, in the order in which they were first mentioned. -/
abbrev Members := List (String × Json)

mutual

/-- Changes the table under a key, making the tables on the way. In an array of tables the last one
is meant, unless arrays are closed. None where something other than a table is on the way. -/
def change? (intoArrays : Bool) (f : Members → Option Members) : Key → Members → Option Members
  | [], ms => f ms
  | k :: key, ms => do
    let inner ← changeValue? intoArrays f key ((Assoc.get? k ms).getD (.object []))
    some (Assoc.put k inner ms)

def changeValue? (intoArrays : Bool) (f : Members → Option Members) (key : Key) :
    Json → Option Json
  | .object ms => (change? intoArrays f key ms).map .object
  | .array items =>
    match intoArrays, items.getLast? with
    | true, some (.object ms) =>
      (change? intoArrays f key ms).map fun ms' => .array (items.dropLast ++ [.object ms'])
    | _, _ => none
  | _ => none

end

/-- Adds a value under a new name. -/
def addNew? (name : String) (value : Json) (ms : Members) : Option Members :=
  match Assoc.get? name ms with
  | none => some (ms ++ [(name, value)])
  | some _ => none

/-- Adds an empty table to the array of tables under a name. -/
def addTable? (name : String) (ms : Members) : Option Members :=
  match Assoc.get? name ms with
  | none => some (ms ++ [(name, .array [.object []])])
  | some (.array items) => some (Assoc.put name (.array (items ++ [.object []])) ms)
  | some _ => none

structure Document where
  root : Members := []
  /-- The table of the last header. -/
  header : Key := []
  /-- Tables that no further header or dotted key may open. -/
  closed : List Key := []
  /-- Tables that are closed at the next header. -/
  closing : List Key := []
  /-- Values that stay as they are, with all that is below them. -/
  frozen : List Key := []

namespace Document

def isFrozen (d : Document) (key : Key) : Bool := d.frozen.any (·.isPrefixOf key)

/-- Makes ready for a header. -/
def endTable (d : Document) : Document :=
  { d with closed := d.closing ++ d.closed, closing := [] }

/-- The header of a table. -/
def openTable? (d : Document) (key : Key) : Option Document :=
  if d.closed.contains key || d.isFrozen key then none
  else do
    let root ← change? true some key d.root
    some { d with root, header := key, closed := key :: d.closed }

/-- The header of one more table of an array. What was said of the table before it does not count
for this one. -/
def openItem? (d : Document) (key : Key) : Option Document :=
  if d.isFrozen key then none
  else do
    let root ← change? true (addTable? (key.getLast?.getD "")) key.dropLast d.root
    some { d with
      root
      header := key
      closed := key :: d.closed.filter (!key.isPrefixOf ·)
      frozen := d.frozen.filter (!key.isPrefixOf ·) }

/-- The keys of the tables that a dotted key runs through, seen from the header. -/
def tablesOf (header key : Key) : List Key :=
  (List.range (key.length - 1)).map fun i => header ++ key.take (i + 1)

/-- A value under a key below the current header. -/
def set? (d : Document) (key : Key) (value : Json) : Option Document :=
  let tables := tablesOf d.header key
  let parent := d.header ++ key.dropLast
  if tables.any d.closed.contains || d.isFrozen parent then none
  else do
    let root ← change? true (addNew? (key.getLast?.getD "") value) parent d.root
    let inline := value.items?.isSome || value.members?.isSome
    some { d with
      root
      closing := tables ++ d.closing
      frozen := if inline then (d.header ++ key) :: d.frozen else d.frozen }

end Document

/-- An inline table as it grows, and the values in it that are frozen. -/
structure InlineTable where
  members : Members := []
  frozen : List Key := []

/-- A value under a key of an inline table. -/
def InlineTable.set? (t : InlineTable) (key : Key) (value : Json) : Option InlineTable :=
  if t.frozen.any (·.isPrefixOf key) then none
  else do
    let members ← change? false (addNew? (key.getLast?.getD "") value) key.dropLast t.members
    let inline := value.items?.isSome || value.members?.isSome
    some ⟨members, if inline then key :: t.frozen else t.frozen⟩

end Exposure.Toml
