import Exposure.Schema
import Exposure.Table
import Exposure.Text.Split

/-!
Records of exposed classes and methods: the flat facts that an index keeps under qualified names. A
method's qualified name is the name of its class, two colons and its own name.

In their document form the qualified name, under which the record is filed, is left out, and so is
everything unset or empty. Reading accepts a field under its document key or under its long name,
and refuses any other key.
-/
namespace Exposure

/-- Stands between the class part and the method part of a method's qualified name. -/
def methodSeparator : String := "::"

/-- The class part and the method part at the first separator; without one all is class part. -/
def splitMethodName (name : String) : String × String :=
  match Text.cutFirst methodSeparator.toList name.toList with
  | some (c, m) => (String.ofList c, String.ofList m)
  | none => (name, "")

def joinMethodName (className methodName : String) : String :=
  className ++ methodSeparator ++ methodName

/-- An exposed class. -/
structure ClassRecord where
  qualifiedName : String
  /-- Ancestors, root first. -/
  inheritance : List String := []
  isAbstract : Bool := false
  displayName : Option String := none
  moduleName : Option String := none
  /-- Bound import names with the qualified names they stand for. -/
  importAliases : List (String × String) := []
  methodNames : List String := []
  deriving DecidableEq, Inhabited

/-- An exposed method. -/
structure MethodRecord where
  qualifiedName : String
  displayName : Option String := none
  isPublic : Bool := false
  isProtected : Bool := false
  isPrivate : Bool := false
  isStatic : Bool := false
  isAbstract : Bool := false
  isFinal : Bool := false
  isInternal : Bool := false
  isConstructor : Bool := false
  isDestructor : Bool := false
  isDeprecated : Bool := false
  returnType : Option String := none
  deriving DecidableEq, Inhabited

namespace ClassRecord

/-- Equality up to the order of the import names. -/
def same (r s : ClassRecord) : Bool :=
  { r with importAliases := [] } == { s with importAliases := [] } &&
    r.importAliases.length == s.importAliases.length &&
    r.importAliases.all fun p => Assoc.get? p.1 s.importAliases == some p.2

end ClassRecord

namespace MethodRecord

/-- The class part of the qualified name. -/
def className (r : MethodRecord) : String := (splitMethodName r.qualifiedName).1

/-- The method part of the qualified name. -/
def name (r : MethodRecord) : String := (splitMethodName r.qualifiedName).2

end MethodRecord

open Schema

/-- A pair unless its value is unset or empty. -/
def memberIf (key : String) (value : Json) : List (String × Json) :=
  if value.truthy then [(key, value)] else []

/-- A string if it is set. -/
def jsonOfOption : Option String → Json
  | some s => .string s
  | none => .null

namespace ClassRecord

/-- The keys that each field is read by. -/
def fieldKeys : List (List String) := [
  ["qualified_name"], ["inheritance"], ["isAbstract", "is_abstract"], ["display", "display_name"],
  ["module", "module_name"], ["imports", "import_aliases"], ["methodNames", "method_names"]]

def toDocument (r : ClassRecord) : Json :=
  .object <|
    memberIf "inheritance" (.strings r.inheritance)
      ++ memberIf "isAbstract" (.bool r.isAbstract)
      ++ memberIf "display" (jsonOfOption r.displayName)
      ++ memberIf "module" (jsonOfOption r.moduleName)
      ++ memberIf "imports" (.object (r.importAliases.map fun p => (p.1, .string p.2)))
      ++ memberIf "methodNames" (.strings r.methodNames)

/-- Reads the members of a record filed under `name`. -/
def ofMembers (name : String) (ms : List (String × Json)) : Except Report ClassRecord :=
  let ms := Assoc.put "qualified_name" (.string name) ms
  let fields := ClassRecord.mk name
    <$> optional ["inheritance"] (arrayOf .notTuple string) [] ms
    <*> optional ["isAbstract", "is_abstract"] flag false ms
    <*> optional ["display", "display_name"] stringOrNull none ms
    <*> optional ["module", "module_name"] stringOrNull none ms
    <*> optional ["imports", "import_aliases"] stringMap [] ms
    <*> optional ["methodNames", "method_names"] (arrayOf .notTuple string) [] ms
  (Checked.both (fun r _ => r) fields (noOthers fieldKeys ms)).toExcept "ClassRecord"

end ClassRecord

namespace MethodRecord

/-- The keys that each field is read by. -/
def fieldKeys : List (List String) := [
  ["qualified_name"], ["display", "display_name"], ["isPublic", "is_public"],
  ["isProtected", "is_protected"], ["isPrivate", "is_private"], ["isStatic", "is_static"],
  ["isAbstract", "is_abstract"], ["isFinal", "is_final"], ["isInternal", "is_internal"],
  ["isConstructor", "is_constructor"], ["isDestructor", "is_destructor"],
  ["isDeprecated", "is_deprecated"], ["return", "return_type"]]

def toDocument (r : MethodRecord) : Json :=
  .object <|
    memberIf "display" (jsonOfOption r.displayName)
      ++ memberIf "isPublic" (.bool r.isPublic)
      ++ memberIf "isProtected" (.bool r.isProtected)
      ++ memberIf "isPrivate" (.bool r.isPrivate)
      ++ memberIf "isStatic" (.bool r.isStatic)
      ++ memberIf "isAbstract" (.bool r.isAbstract)
      ++ memberIf "isFinal" (.bool r.isFinal)
      ++ memberIf "isInternal" (.bool r.isInternal)
      ++ memberIf "isConstructor" (.bool r.isConstructor)
      ++ memberIf "isDestructor" (.bool r.isDestructor)
      ++ memberIf "isDeprecated" (.bool r.isDeprecated)
      ++ memberIf "return" (jsonOfOption r.returnType)

/-- Reads the members of a record filed under `name`. -/
def ofMembers (name : String) (ms : List (String × Json)) : Except Report MethodRecord :=
  let ms := Assoc.put "qualified_name" (.string name) ms
  let fields := MethodRecord.mk name
    <$> optional ["display", "display_name"] stringOrNull none ms
    <*> optional ["isPublic", "is_public"] flag false ms
    <*> optional ["isProtected", "is_protected"] flag false ms
    <*> optional ["isPrivate", "is_private"] flag false ms
    <*> optional ["isStatic", "is_static"] flag false ms
    <*> optional ["isAbstract", "is_abstract"] flag false ms
    <*> optional ["isFinal", "is_final"] flag false ms
    <*> optional ["isInternal", "is_internal"] flag false ms
    <*> optional ["isConstructor", "is_constructor"] flag false ms
    <*> optional ["isDestructor", "is_destructor"] flag false ms
    <*> optional ["isDeprecated", "is_deprecated"] flag false ms
    <*> optional ["return", "return_type"] stringOrNull none ms
  (Checked.both (fun r _ => r) fields (noOthers fieldKeys ms)).toExcept "MethodRecord"

end MethodRecord
end Exposure
