import Exposure.Class.Basic
import Exposure.MethodFilter

/-!
The classes that every hierarchy rests on: the root class, the classes that make others generic,
abstract or protocols, and the two markers. A class that derives from the first marker is exposed;
one that derives from the second too has its methods exposed. Each marker declares an abstract hook
with a result for the classes that define none.
-/
namespace Exposure

namespace ClassId

def root : ClassId := known "builtins.object"

def generic : ClassId := known "typing.Generic"

def protocol : ClassId := known "typing.Protocol"

def abstractBase : ClassId := known "abc.ABC"

/-- The marker of exposed classes. -/
def exposed : ClassId := known "exposed_symbols.contract.capabilities.ExposeClass"

/-- The marker of classes whose methods are exposed. -/
def methodsExposed : ClassId := known "exposed_symbols.contract.capabilities.ExposeClassMethods"

/-- Classes that are no ancestors of interest. -/
def foundations : List ClassId :=
  [root, generic, protocol, exposed, methodsExposed, abstractBase]

end ClassId

/-- The hook that gives the purposes of a class. -/
def purposesHook : String := "get_purposes"

/-- The hook that gives the filter for the methods of a class. -/
def filterHook : String := "get_method_filter_options"

namespace Class

/-- A class that is there from the start. -/
def ofKnown (moduleName name : String) (bases : List Class)
    (members : List (String × Member) := []) : Class :=
  mk { id := .known (moduleName ++ "." ++ name), name, moduleName, qualifier := name, members }
    bases

def root : Class := ofKnown "builtins" "object" []

def generic : Class := ofKnown "typing" "Generic" [root]

def protocol : Class := ofKnown "typing" "Protocol" [generic]

def abstractBase : Class := ofKnown "abc" "ABC" [root]

/-- An abstract hook of a marker, called with the class. -/
def hookOf (result : Source.Expr) : Member :=
  .wrapped .classMethod {} (.function {
    marks := { isAbstract := true }, arity := ⟨1, some 1, 0⟩, parameters := ["cls"],
    body := [.return (some result)] })

def capabilities : String := "exposed_symbols.contract.capabilities"

def exposed : Class :=
  ofKnown capabilities "ExposeClass" [abstractBase] [(purposesHook, hookOf (.tuple []))]

def methodsExposed : Class :=
  ofKnown capabilities "ExposeClassMethods" [abstractBase]
    [(filterHook, hookOf (.constant (.number (.int MethodFilter.standard.bits))))]

/-- The class keeps account of its abstract members. -/
def countsAbstract (c : Class) : Bool := c.derivesFrom .abstractBase || c.derivesFrom .protocol

mutual

/-- The names that a class leaves abstract: its own, and those of its bases that still lead to
something abstract. -/
def abstractNames : Class → List String
  | mk b bases =>
    let c := mk b bases
    if c.countsAbstract then
      (b.members.filter fun m => m.2.isAbstract).map (·.1)
        ++ (abstractNamesOf bases).filter fun n => (c.lookup? n).any Member.isAbstract
    else []

def abstractNamesOf : List Class → List String
  | [] => []
  | c :: cs => abstractNames c ++ abstractNamesOf cs

end

def isAbstract (c : Class) : Bool := !c.abstractNames.isEmpty

/-- Why a definition makes no class. -/
inductive Fault where
  | repeatedBase
  /-- The bases contradict each other. -/
  | noOrder
  /-- A protocol has a base that is none. -/
  | protocolBase
  deriving DecidableEq

/-- Members that a definition wraps without being told to. -/
def withImplicitWrapper (m : String × Member) : String × Member :=
  match m.2 with
  | .function f =>
    if m.1 = "__new__" then (m.1, .wrapped .static {} (.function f))
    else if m.1 = "__init_subclass__" ∨ m.1 = "__class_getitem__" then
      (m.1, .wrapped .classMethod {} (.function f))
    else m
  | _ => m

/-- The class itself is a protocol, which its subclasses are not. -/
def isProtocol (c : Class) : Bool := c.id == .protocol || c.bases.any (·.id == .protocol)

/-- Adds the members that protocols and their subclasses get. -/
def completeProtocol (c : Class) : Except Fault Class := do
  if !c.derivesFrom .protocol then return c
  let generated : Member := .function {}
  let hooked := if (Assoc.get? "__subclasshook__" c.members).isSome then c.members
    else c.members ++ [("__subclasshook__", generated)]
  let withMembers (ms : List (String × Member)) : Class := mk { c.body with members := ms } c.bases
  if !c.isProtocol then return withMembers hooked
  let allowed (b : Class) : Bool := b.id == .root || b.id == .generic || b.isProtocol
  if !c.bases.all allowed then throw .protocolBase
  return withMembers <| if (c.lookup? "__init__").isSome then hooked
    else Assoc.put "__init__" generated hooked

/-- The class that a definition makes; without bases it derives from the root class. -/
def define (body : ClassBody) (bases : List Class) : Except Fault Class := do
  let bases := if bases.isEmpty then [root] else bases
  if (bases.map id).eraseDups.length < bases.length then throw .repeatedBase
  let c := mk { body with members := body.members.map withImplicitWrapper } bases
  if (order? c).isNone then throw .noOrder
  completeProtocol c

/-- The first base of interest. -/
def primaryBase? (c : Class) : Option Class :=
  c.bases.find? fun b => !ClassId.foundations.contains b.id

mutual

/-- The first bases of interest, from the root down to the one of the class itself. -/
def lineage : Class → List Class
  | mk _ bases => firstLine bases

/-- The line of the first base of interest, with that base at its end. -/
def firstLine : List Class → List Class
  | [] => []
  | b :: bs => if ClassId.foundations.contains b.id then firstLine bs else lineage b ++ [b]

end

theorem firstLine_eq (bases : List Class) :
    firstLine bases =
      match bases.find? fun b => !ClassId.foundations.contains b.id with
      | some b => lineage b ++ [b]
      | none => [] := by
  induction bases with
  | nil => simp [firstLine]
  | cons b bs ih =>
    by_cases h : ClassId.foundations.contains b.id
    · rw [firstLine, if_pos h, ih, List.find?_cons, h]
      rfl
    · have h' : ClassId.foundations.contains b.id = false := by simpa using h
      rw [firstLine, if_neg h, List.find?_cons, h']
      rfl

/-- The lineage of a class is that of its primary base and then that base. -/
theorem lineage_eq (c : Class) :
    c.lineage = match c.primaryBase? with
      | some b => b.lineage ++ [b]
      | none => [] := by
  cases c with
  | mk b bases => rw [lineage, firstLine_eq]; rfl

/-- The lineage by name, root first. -/
def inheritance (c : Class) : List String := c.lineage.map qualifiedName

/-- Pairs of a marker and a class that was declared to implement it without deriving from it. -/
abbrev Registry := List (ClassId × ClassId)

/-- The class derives from the marker, or one that it derives from was declared to implement it. -/
def implements (registry : Registry) (marker : ClassId) (c : Class) : Bool :=
  c.order.any fun d => d.id == marker || registry.contains (marker, d.id)

def isExposed (registry : Registry) (c : Class) : Bool := c.implements registry .exposed

def exposesMethods (registry : Registry) (c : Class) : Bool := c.implements registry .methodsExposed

end Class
end Exposure
