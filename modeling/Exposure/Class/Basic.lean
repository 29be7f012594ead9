import Exposure.Assoc
import Exposure.Source.Syntax

/-!
Classes as they exist once their definition has run: names, documentation, members in the order of
the definition, and bases, which are classes themselves, so that a hierarchy is finite and has no
cycles. Two classes are the same if they have the same identity.

The order in which a class and its ancestors are asked for a member is merged from the orders of the
bases and the list of the bases, none of which it contradicts; where that cannot be done the class
has no order.
-/
namespace Exposure

/-- What tells classes apart. -/
inductive ClassId where
  /-- A class that is there from the start, by its qualified name. -/
  | known (qualifiedName : String)
  /-- A class that a definition has made. -/
  | made (serial : Nat)
  deriving DecidableEq, Inhabited

/-- Marks that a method or a wrapper around it can carry. -/
structure Marks where
  isAbstract : Bool := false
  isFinal : Bool := false
  isDeprecated : Bool := false
  deriving DecidableEq, Inhabited

/-- How many values a function can be given by position; no bound if it takes any rest. -/
structure Arity where
  least : Nat := 0
  most : Option Nat := none
  /-- Values that have to be given by name. -/
  named : Nat := 0
  deriving DecidableEq, Inhabited

/-- Where a piece of source text stands. -/
structure Place where
  /-- The module that the text belongs to. -/
  scope : Nat := 0
  /-- The innermost class around the text, by which private names are stored. -/
  className : Option String := none
  /-- What stands before the names of classes that are defined here. -/
  qualifier : String := ""
  /-- Type hints are kept as text and not looked at. -/
  hintsAsText : Bool := false
  /-- The text stands in a function, whose names it may use. -/
  enclosed : Bool := false
  deriving Inhabited

structure Function where
  doc : Option String := none
  /-- The text of the type that it declares to return. -/
  returnType : Option String := none
  marks : Marks := {}
  arity : Arity := {}
  /-- The names that take values by position. -/
  parameters : List String := []
  /-- The other names that it can be given values under. -/
  others : List String := []
  /-- Where the body stands. -/
  place : Place := {}
  /-- The body does not run when the function is called. -/
  deferred : Bool := false
  body : List Source.Stmt := []
  deriving Inhabited

/-- Callables that are not written in a source text. -/
inductive Native where
  | function
  | method
  /-- A method behind an operator. -/
  | operator
  | classMethod
  deriving DecidableEq

/-- What can stand between a class and a function of it. -/
inductive Wrapper where
  | static
  | classMethod
  | property
  deriving DecidableEq

/-- What a name in a class stands for. -/
inductive Member where
  | function (f : Function)
  | native (kind : Native)
  | wrapped (wrapper : Wrapper) (marks : Marks) (inner : Member)
  | nestedClass
  | value
  deriving Inhabited

/-- What a class definition says, apart from the bases. -/
structure ClassBody where
  id : ClassId
  name : String
  moduleName : String
  /-- The name with those of the definitions around it. -/
  qualifier : String
  doc : Option String := none
  members : List (String × Member) := []
  deriving Inhabited

inductive Class where
  | mk (body : ClassBody) (bases : List Class)
  deriving Inhabited

namespace Arity

/-- The function can be called with so many values by position and none by name. -/
def accepts (a : Arity) (given : Nat) : Bool :=
  a.named = 0 && a.least ≤ given && a.most.all (given ≤ ·)

/-- The arity that a list of parameters has. -/
def ofParameters (ps : List Source.Parameter) : Arity where
  least := ps.countP fun p => p.role = .positional && p.default.isNone
  most := if ps.any (·.role = .rest) then none else some (ps.countP (·.role = .positional))
  named := ps.countP fun p => p.role = .named && p.default.isNone

end Arity

namespace Member

/-- The callable that a member stands for, out of its wrapper; properties and values have none. -/
def callee? : Member → Option Member
  | wrapped .static _ inner => some inner
  | wrapped .classMethod _ inner => some inner
  | function f => some (function f)
  | native kind => some (native kind)
  | _ => none

/-- The member belongs to the class and not to its instances. -/
def isStatic : Member → Bool
  | wrapped .static _ _ => true
  | wrapped .classMethod _ _ => true
  | native .classMethod => true
  | _ => false

/-- A wrapper is abstract if what it wraps is. -/
def isAbstract : Member → Bool
  | function f => f.marks.isAbstract
  | wrapped _ _ inner => inner.isAbstract
  | _ => false

/-- Marks on the member itself. -/
def marks : Member → Marks
  | function f => f.marks
  | wrapped _ m _ => m
  | _ => {}

/-- The documentation, which wrappers take over. -/
def doc? : Member → Option String
  | function f => f.doc
  | wrapped _ _ inner => inner.doc?
  | _ => none

/-- The declared return type as far as the member shows it itself. -/
def returnType? : Member → Option String
  | function f => f.returnType
  | wrapped .static _ inner => inner.returnType?
  | _ => none

def isNative : Member → Bool
  | native _ => true
  | _ => false

end Member

namespace Class

def body : Class → ClassBody
  | mk b _ => b

def bases : Class → List Class
  | mk _ bs => bs

def id (c : Class) : ClassId := c.body.id

def name (c : Class) : String := c.body.name

def moduleName (c : Class) : String := c.body.moduleName

def doc (c : Class) : Option String := c.body.doc

/-- The members of the class itself, in the order of the definition. -/
def members (c : Class) : List (String × Member) := c.body.members

/-- The module name and the name within the module. -/
def qualifiedName (c : Class) : String := c.moduleName ++ "." ++ c.body.qualifier

instance : BEq Class := ⟨fun c d => c.id == d.id⟩

end Class

section

variable {α : Type} [BEq α]

/-- The first head that stands behind no other head. -/
def nextInOrder (orders : List (List α)) : Option α :=
  orders.findSome? fun o => o.head?.filter fun a => !orders.any fun p => p.tail.contains a

/-- Takes a head away from the lists that begin with it. -/
def withoutHead (a : α) (orders : List (List α)) : List (List α) :=
  orders.map fun o => if o.head?.any (· == a) then o.tail else o

/-- Merges lists into one that keeps the order of each; the fuel bounds its length. -/
def mergeWithin : Nat → List (List α) → Option (List α)
  | 0, orders => if orders.all List.isEmpty then some [] else none
  | n + 1, orders =>
    if orders.all List.isEmpty then some []
    else (nextInOrder orders).bind fun a => (mergeWithin n (withoutHead a orders)).map (a :: ·)

/-- Merges lists into one that keeps the order of each, if there is one. -/
def mergeOrders (orders : List (List α)) : Option (List α) :=
  mergeWithin orders.flatten.length orders

end

namespace Class

mutual

/-- The class and its ancestors in the order of the search. -/
def order? : Class → Option (List Class)
  | mk b bases => do
    let orders ← baseOrders? bases
    let rest ← mergeOrders (orders ++ [bases])
    return mk b bases :: rest

def baseOrders? : List Class → Option (List (List Class))
  | [] => some []
  | c :: cs => do
    let o ← order? c
    let os ← baseOrders? cs
    return o :: os

end

/-- The order of a class that has one. -/
def order (c : Class) : List Class := (order? c).getD []

/-- The member that a name stands for in the class or else in an ancestor. -/
def lookup? (c : Class) (name : String) : Option Member :=
  c.order.findSome? fun d => Assoc.get? name d.members

/-- The class is the given one or has it among its ancestors. -/
def derivesFrom (c : Class) (id : ClassId) : Bool := c.order.any (·.id == id)

end Class
end Exposure
