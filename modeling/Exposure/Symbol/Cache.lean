import Exposure.Artifact.Document
import Exposure.Record.Basic

/-!
Symbols, the linked form of records, and queries over a loaded index. A class symbol holds the
symbols of its methods and a method symbol that of its class, both by number, so that the two can
refer to each other.

A record becomes a symbol when it is first asked for; the symbol then takes the record's place, so
that the same name gives the same symbol from then on. A name without a record is noted as unknown.
A class links the methods it lists and a method links its class, each side standing in the cache
before it asks for the other.
-/
namespace Exposure

/-- The display name if it has text, else the last dotted part of the qualified name. -/
def shortName (displayName : Option String) (qualifiedName : String) : String :=
  match displayName with
  | some d => if d = "" then lastPart qualifiedName else d
  | none => lastPart qualifiedName
where
  lastPart (name : String) : String :=
    match Text.cutLast '.' name.toList with
    | some (_, l) => String.ofList l
    | none => name

/-- What stands before the last dot of a qualified name. -/
def namespaceOf (qualifiedName : String) : Option String :=
  (Text.cutLast '.' qualifiedName.toList).map fun p => String.ofList p.1

/-- The class behind a record, with its method symbols once they are attached. -/
structure ClassSymbol where
  record : ClassRecord
  exposedMethods : List Nat := []
  deriving DecidableEq, Inhabited

/-- The method behind a record, with the symbol and the module of its class once attached. -/
structure MethodSymbol where
  record : MethodRecord
  parent : Option Nat := none
  moduleName : Option String := none
  deriving DecidableEq, Inhabited

namespace ClassSymbol

def name (s : ClassSymbol) : String := s.record.qualifiedName

def instantiable (s : ClassSymbol) : Bool := !s.record.isAbstract

end ClassSymbol

namespace MethodSymbol

/-- The method's name without its class part. -/
def name (s : MethodSymbol) : String := s.record.name

end MethodSymbol

/-- What the cache knows of a name. -/
inductive Slot (ρ : Type) where
  | record (r : ρ)
  | symbol (number : Nat)
  | unknown

structure SymbolCache where
  classPurposes : PurposeTree
  methodPurposes : PurposeTree
  classNames : List String
  methodNames : List String
  classes : Table (Slot ClassRecord)
  methods : Table (Slot MethodRecord)
  classSymbols : List ClassSymbol := []
  methodSymbols : List MethodSymbol := []
  deriving Inhabited

namespace SymbolCache

def ofIndex (i : Index) : SymbolCache where
  classPurposes := i.classPurposes
  methodPurposes := i.methodPurposes
  classNames := i.classes.keys
  methodNames := i.methods.keys
  classes := i.classes.mapValues fun _ => .record
  methods := i.methods.mapValues fun _ => .record

/-- The entries that are still records. -/
def rawCount {ρ : Type} (t : Table (Slot ρ)) : Nat :=
  t.entries.countP fun e => match e.2 with
    | .record _ => true
    | _ => false

/-- The records of either kind that have not been asked for. -/
def pending (c : SymbolCache) : Nat := rawCount c.classes + rawCount c.methods

def classSymbol? (c : SymbolCache) (number : Nat) : Option ClassSymbol := c.classSymbols[number]?

def methodSymbol? (c : SymbolCache) (number : Nat) : Option MethodSymbol := c.methodSymbols[number]?

/-- Puts a new class symbol in its record's place. -/
def enterClass (c : SymbolCache) (name : String) (r : ClassRecord) : SymbolCache :=
  { c with
    classes := c.classes.insert name (.symbol c.classSymbols.length)
    classSymbols := c.classSymbols ++ [{ record := r }] }

/-- Puts a new method symbol in its record's place. -/
def enterMethod (c : SymbolCache) (name : String) (r : MethodRecord) : SymbolCache :=
  { c with
    methods := c.methods.insert name (.symbol c.methodSymbols.length)
    methodSymbols := c.methodSymbols ++ [{ record := r }] }

def attachMethods (c : SymbolCache) (number : Nat) (methods : List Nat) : SymbolCache :=
  { c with
    classSymbols := c.classSymbols.modify number fun s => { s with exposedMethods := methods } }

/-- Links a method to its class; the module is the class's. -/
def attachParent (c : SymbolCache) (number : Nat) (parent : Option Nat) : SymbolCache :=
  let moduleName := (parent.bind c.classSymbol?).bind fun s => s.record.moduleName
  { c with methodSymbols := c.methodSymbols.modify number fun s =>
      { s with parent := parent, moduleName := moduleName } }

mutual

/-- Looks a class up; the fuel bounds the nesting of look-ups. -/
def classWithin (fuel : Nat) (name : String) (c : SymbolCache) : Option Nat × SymbolCache :=
  match fuel with
  | 0 => (none, c)
  | fuel + 1 =>
    match c.classes.get? name with
    | none => (none, { c with classes := c.classes.insert name .unknown })
    | some .unknown => (none, c)
    | some (.symbol number) => (some number, c)
    | some (.record r) =>
      let number := c.classSymbols.length
      let (methods, c) := r.methodNames.foldl (fun (found, c) m =>
        match methodWithin fuel (joinMethodName name m) c with
        | (some k, c) => (found ++ [k], c)
        | (none, c) => (found, c)) ([], c.enterClass name r)
      (some number, c.attachMethods number methods)

/-- Looks a method up. -/
def methodWithin (fuel : Nat) (name : String) (c : SymbolCache) : Option Nat × SymbolCache :=
  match fuel with
  | 0 => (none, c)
  | fuel + 1 =>
    match c.methods.get? name with
    | none => (none, { c with methods := c.methods.insert name .unknown })
    | some .unknown => (none, c)
    | some (.symbol number) => (some number, c)
    | some (.record r) =>
      let number := c.methodSymbols.length
      let (parent, c) := classWithin fuel r.className (c.enterMethod name r)
      (some number, c.attachParent number parent)

end

/-- The class symbol of a name. Each nested look-up that goes on has used up a record. -/
def exposedClass (c : SymbolCache) (name : String) : Option Nat × SymbolCache :=
  classWithin (c.pending + 1) name c

/-- The method symbol of a `Class::method` name. -/
def exposedMethod (c : SymbolCache) (name : String) : Option Nat × SymbolCache :=
  methodWithin (c.pending + 1) name c

/-- The display name of a class, whether it is a record or a symbol by now. -/
def displayNameOfClass (c : SymbolCache) (name : String) : Option String :=
  match c.classes.get? name with
  | some (.record r) => r.displayName
  | some (.symbol number) => (c.classSymbol? number).bind fun s => s.record.displayName
  | _ => none

def displayNameOfMethod (c : SymbolCache) (name : String) : Option String :=
  match c.methods.get? name with
  | some (.record r) => r.displayName
  | some (.symbol number) => (c.methodSymbol? number).bind fun s => s.record.displayName
  | _ => none

/-- The display name of a method if the name has a method part, else of a class. -/
def displayName (c : SymbolCache) (name : String) : Option String :=
  if (Text.cutFirst methodSeparator.toList name.toList).isSome then c.displayNameOfMethod name
  else c.displayNameOfClass name

/-- The first attached method with the given name. -/
def methodOf? (c : SymbolCache) (s : ClassSymbol) (name : String) : Option Nat :=
  s.exposedMethods.find? fun k => (c.methodSymbol? k).any fun m => m.name == name

end SymbolCache
end Exposure
