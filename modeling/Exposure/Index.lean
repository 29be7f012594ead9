import Exposure.Log
import Exposure.Purpose.Tree
import Exposure.Record.Basic

/-!
The index of exposed symbols: a purpose tree and a table of records for classes, and the same for
methods. Adding a record registers its purposes first. A tag without tokens is passed over with a
warning; a tag that runs through a bucket ends the addition, and what was registered before stays.
-/
namespace Exposure

structure Index where
  classPurposes : PurposeTree := {}
  methodPurposes : PurposeTree := {}
  classes : Table ClassRecord := {}
  methods : Table MethodRecord := {}
  deriving Inhabited

/-- Registers a name under one tag after the other. Gives the tree, the unusable tags that were
passed over and the fault that ended the work, if there was one. -/
def PurposeTree.registerAll (name : String) :
    List String → PurposeTree → PurposeTree × List String × Option PurposeTree.Fault
  | [], t => (t, [], none)
  | tag :: tags, t =>
    match t.register tag name with
    | (t', none) => registerAll name tags t'
    | (t', some (.noTokens tag)) =>
      let (t'', skipped, fault) := registerAll name tags t'
      (t'', tag :: skipped, fault)
    | (t', some (.blocked fault)) => (t', [], some fault)

namespace Index

/-- The outcome of adding a record. -/
structure Addition where
  index : Index
  logs : List LogLine
  fault : Option PurposeTree.Fault

/-- The warning about a tag that names nothing. -/
def skippedTag (name tag : String) : LogLine :=
  ⟨.warning, "Ignoring purpose of " ++ name ++ ": " ++ PurposeTree.noTokensMessage tag⟩

def addClass (record : ClassRecord) (purposes : List String) (i : Index) : Addition :=
  let name := record.qualifiedName
  let (tree, skipped, fault) := i.classPurposes.registerAll name purposes
  let grown := { i with classPurposes := tree }
  ⟨match fault with
    | none => { grown with classes := i.classes.insert name record }
    | some _ => grown,
    skipped.map (skippedTag name), fault⟩

def addMethod (record : MethodRecord) (purposes : List String) (i : Index) : Addition :=
  let name := record.qualifiedName
  let (tree, skipped, fault) := i.methodPurposes.registerAll name purposes
  let grown := { i with methodPurposes := tree }
  ⟨match fault with
    | none => { grown with methods := i.methods.insert name record }
    | some _ => grown,
    skipped.map (skippedTag name), fault⟩

/-- Equality of indexes: the order of tables and of tree nodes does not count. -/
def same (i j : Index) : Bool :=
  i.classPurposes.same j.classPurposes && i.methodPurposes.same j.methodPurposes &&
    i.classes.equivBy ClassRecord.same j.classes &&
    i.methods.equivBy (fun r s => r == s) j.methods

end Index
end Exposure
