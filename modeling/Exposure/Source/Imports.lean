import Exposure.Assoc
import Exposure.ModuleName
import Exposure.Source.Parser.Statement

/-!
The names that the imports of a module bind, with the qualified names that they stand for. Only
imports at module level count; a name that is bound again keeps its place and takes the last
meaning.
-/
namespace Exposure.Source

/-- Names and what they stand for, in the order in which they are first bound. -/
abbrev Aliases := List (String × String)

/-- The first part of a dotted name. -/
def firstPart (name : String) : String := (Text.splitString '.' name).headD ""

/-- An empty second name counts as none. -/
def nonEmpty (name : Option String) : Option String := name.filter (· ≠ "")

/-- The name that an import binds and its meaning: without a second name the first part alone. -/
def ImportedName.binding (n : ImportedName) : String × String :=
  match nonEmpty n.boundAs with
  | some a => (a, n.name)
  | none => (firstPart n.name, firstPart n.name)

/-- The binding of a name imported from a module; a star binds none. -/
def ImportedName.bindingFrom (module : String) (n : ImportedName) : Option (String × String) :=
  if n.name = "*" then none
  else some ((nonEmpty n.boundAs).getD n.name,
    if module = "" then n.name else module ++ "." ++ n.name)

/-- What a statement binds inside the module `importing`. -/
def Stmt.bindings (importing : String) : Stmt → Aliases
  | .import names => names.map ImportedName.binding
  | .importFrom module names level =>
    let target := if level = 0 then module else ModuleName.resolveRelative importing module level
    names.filterMap (ImportedName.bindingFrom target)
  | _ => []

/-- The names that the statements of a module bind, one after the other. -/
def aliasesOf (importing : String) (body : List Stmt) : Aliases :=
  Assoc.ofPairs (body.flatMap (Stmt.bindings importing))

/-- The names that the imports of a source text bind; none where it cannot be read. -/
def importAliases (importing source : String) : Aliases :=
  match Parser.parse? source with
  | some body => aliasesOf importing body
  | none => []

end Exposure.Source
