import Exposure.Class.Standard

/-!
The methods that a class declares itself: its callable members with their modifiers, in the order
of the definition. A private method is known by the name that its definition wrote, without the
name of the class that is put before it in the class.
-/
namespace Exposure

/-- What a private name of a class begins with inside the class: the name of the class without its
leading underscores, between underscores. -/
def privateMark (className : String) : List Char :=
  '_' :: className.toList.dropWhile (· = '_') ++ ['_', '_']

/-- The name under which a definition inside a class stores a name that it writes: a name with two
leading underscores is private to the class, unless two stand at its end or the name of the class
is made of underscores. -/
def storedName (className name : String) : String :=
  if ['_', '_'].isPrefixOf name.toList && !(['_', '_'].isSuffixOf name.toList)
      && !name.toList.contains '.' && className.toList.any (· ≠ '_') then
    String.ofList (privateMark className ++ name.toList.drop 2)
  else name

/-- The name that a definition wrote for a stored name, and whether it is private. -/
def writtenName (className stored : String) : String × Bool :=
  let mark := privateMark className
  if mark.isPrefixOf stored.toList && !(['_', '_'].isSuffixOf stored.toList) then
    (String.ofList ('_' :: '_' :: stored.toList.drop mark.length), true)
  else (stored, false)

/-- Two underscores on either side of something. -/
def isMagic (name : String) : Bool :=
  4 < name.length && ['_', '_'].isPrefixOf name.toList && ['_', '_'].isSuffixOf name.toList

/-- A callable member of a class. -/
structure DeclaredMethod where
  /-- The name that the definition wrote. -/
  name : String
  /-- The name in the class. -/
  stored : String
  isPrivate : Bool
  member : Member
  /-- The member without its wrapper. -/
  callee : Member

namespace DeclaredMethod

def isStatic (m : DeclaredMethod) : Bool := m.member.isStatic

/-- The callable is not written in a source text. -/
def isInternal (m : DeclaredMethod) : Bool := m.callee.isNative

/-- A mark on the member or on the callable in it. -/
def marked (m : DeclaredMethod) (mark : Marks → Bool) : Bool :=
  mark m.member.marks || mark m.callee.marks

/-- Who can call the method. -/
def access (m : DeclaredMethod) : MethodFilter :=
  if m.isPrivate then .privateAccess
  else if m.name.toList.head? = some '_' && !isMagic m.name then .protectedAccess
  else .publicAccess

def modifiers (m : DeclaredMethod) : MethodFilter :=
  .ofList [m.access, .flagIf m.isStatic .static, .flagIf m.member.isAbstract .abstract,
    .flagIf (m.marked Marks.isFinal) .final]

/-- The method is one that the filter selects, if it selects any, and one of those that it is
narrowed to. -/
def passes (options : MethodFilter) (m : DeclaredMethod) : Bool :=
  let selected := options.inter .modifiers
  (selected.isEmpty || selected.meets m.modifiers)
    && (!options.meets .static || m.isStatic)
    && (!options.meets .objective || !m.isStatic)
    && !(options.meets .excludeMagic && isMagic m.name)

end DeclaredMethod

namespace Class

/-- The declared method that a member of the class is, if it is one. -/
def methodOf? (c : Class) (m : String × Member) : Option DeclaredMethod :=
  m.2.callee?.map fun callee =>
    let (name, isPrivate) := writtenName c.name m.1
    { name, stored := m.1, isPrivate, member := m.2, callee }

/-- Names in a class that no definition wrote. -/
def generatedNames : List String := ["__annotate__", "__annotate_func__"]

/-- The methods that a class declares itself. -/
def declaredMethods (c : Class) : List DeclaredMethod :=
  (c.members.filter fun m => !generatedNames.contains m.1).filterMap c.methodOf?

end Class
end Exposure
