import Exposure.Doc.Tag
import Exposure.Record.Basic
import Exposure.Source.Imports
import Exposure.Value

/-!
Reflection of an exposed class: its record with those of the methods that its filter lets through,
and the purposes of both. The class itself says by its hooks what filter and what purposes it has;
a hook that fails, or gives something else, fails the reflection of the class. Names come from the
class, import names from the text of its file, and the rest from documentation tags.
-/
namespace Exposure

/-- A class whose facts could not be found out. -/
structure ReflectionError where
  qualifiedName : String
  reason : Raised
  deriving DecidableEq

def ReflectionError.message (e : ReflectionError) : String :=
  "Reflection of " ++ e.qualifiedName ++ " failed: " ++ e.reason.reason

structure MethodReflection where
  record : MethodRecord
  purposes : List String

structure Reflection where
  record : ClassRecord
  purposes : List String
  methods : List MethodReflection

/-- Runs the body of a function with the values that it is given. -/
abbrev Run := Function → List Value → Except Raised Value

namespace Member

section Call

variable {m : Type → Type} [Monad m] [MonadExceptOf Raised m]
  (run : Function → List Value → m Value)

/-- Calls a function if it can be given so many values. -/
def invoke (f : Function) (given : List Value) : m Value :=
  if f.arity.accepts given.length then run f given else throw .typeError

/-- Calls a member by itself. -/
def callPlain : Member → m Value
  | function f => invoke run f []
  | wrapped .static _ inner => inner.callPlain
  | nestedClass => return .unknown
  | _ => throw .typeError

/-- Calls what a wrapper hands over to the class. -/
def callBound (c : Class) : Member → m Value
  | function f => invoke run f [.type c]
  | wrapped .static _ inner => inner.callPlain run
  | wrapped .classMethod _ inner => inner.callBound c
  | wrapped .property _ (function f) => do
    let _ ← invoke run f [.type c]
    throw .typeError
  | _ => throw .typeError

/-- Calls a member through its class. -/
def callOf (c : Class) : Member → m Value
  | wrapped .classMethod _ inner => inner.callBound run c
  | m => m.callPlain run

end Call

end Member

namespace Class

/-- Calls a hook of the class or of the nearest ancestor that has it. -/
def callHook (run : Run) (c : Class) (hook : String) : Except Raised Value :=
  match c.lookup? hook with
  | some m => m.callOf run c
  | none => .error .attributeError

end Class

namespace Reflection

/-- Tags that a class can carry. -/
def classTags : List String := ["display", "module"]

/-- Tags that a method can carry. -/
def methodTags : List String := ["purpose", "display", "deprecated"]

/-- Methods that serve the reflection and are not exposed. -/
def hooks : List String := [purposesHook, filterHook]

/-- The tags in documentation. -/
def tagsIn (names : List String) : Option String → List Doc.Tag
  | some doc => Doc.tagsNamed names (Doc.clean doc)
  | none => []

/-- The value of the last tag with a name. -/
def lastValue? (name : String) (tags : List Doc.Tag) : Option String :=
  ((tags.filter (·.1 = name)).getLast?).map (·.2)

/-- The values of all tags with a name. -/
def allValues (name : String) (tags : List Doc.Tag) : List String :=
  (tags.filter (·.1 = name)).map (·.2)

def methodRecord (c : Class) (m : DeclaredMethod) (tags : List Doc.Tag) : MethodRecord where
  qualifiedName := joinMethodName c.qualifiedName m.name
  displayName := lastValue? "display" tags
  isPublic := m.access = .publicAccess
  isProtected := m.access = .protectedAccess
  isPrivate := m.access = .privateAccess
  isStatic := m.isStatic
  isAbstract := m.member.isAbstract
  isFinal := m.marked Marks.isFinal
  isInternal := m.isInternal
  isConstructor := m.name = "__init__" || m.name = "__new__"
  isDestructor := m.name = "__del__"
  isDeprecated := m.marked Marks.isDeprecated || tags.any (·.1 = "deprecated")
  returnType := m.callee.returnType?

/-- The record and the purposes of a method, unless the filter asks for purposes and it has none. -/
def ofMethod? (c : Class) (options : MethodFilter) (m : DeclaredMethod) :
    Option MethodReflection :=
  let tags := tagsIn methodTags m.callee.doc?
  let purposes := allValues "purpose" tags
  if options.meets .purposedOnly && purposes.isEmpty then none
  else some ⟨methodRecord c m tags, purposes⟩

/-- The methods of a class that a filter lets through, hooks apart. -/
def methodsWith (c : Class) (options : MethodFilter) : List MethodReflection :=
  (c.declaredMethods.filter fun m => !hooks.contains m.name && m.passes options).filterMap
    (ofMethod? c options)

/-- The exposed methods of a class. -/
def methodsOf (run : Run) (registry : Class.Registry) (c : Class) :
    Except Raised (List MethodReflection) :=
  if c.exposesMethods registry then do
    let options ← (← c.callHook run filterHook).toFilter
    return methodsWith c options
  else .ok []

/-- A text that is there and not empty. -/
def nonEmpty (s : Option String) : Option String := s.filter (· ≠ "")

def classRecord (c : Class) (source : String) (moduleName : Option String)
    (methods : List MethodReflection) : ClassRecord :=
  let tags := tagsIn classTags c.doc
  { qualifiedName := c.qualifiedName
    inheritance := c.inheritance
    isAbstract := c.isAbstract
    displayName := lastValue? "display" tags
    moduleName := (nonEmpty moduleName).or (lastValue? "module" tags)
    importAliases := Source.importAliases c.moduleName source
    methodNames := methods.map fun m => m.record.name }

/-- The facts of an exposed class; the methods are asked for before the purposes. -/
def ofExposed (run : Run) (registry : Class.Registry) (c : Class) (source : String)
    (moduleName : Option String) : Except Raised Reflection := do
  let methods ← methodsOf run registry c
  let purposes ← (← c.callHook run purposesHook).toPurposes
  return ⟨classRecord c source moduleName methods, purposes, methods⟩

/-- The facts of a class, if it is exposed. `source` is the text of its file, and a module name
that is given goes before the one in the documentation. -/
def ofClass (run : Run) (registry : Class.Registry) (c : Class) (source : String)
    (moduleName : Option String) : Except ReflectionError (Option Reflection) :=
  if c.isExposed registry then
    match ofExposed run registry c source moduleName with
    | .ok r => .ok (some r)
    | .error reason => .error ⟨c.qualifiedName, reason⟩
  else .ok none

end Reflection
end Exposure
