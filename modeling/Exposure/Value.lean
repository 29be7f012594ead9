import Exposure.Class.Method
import Exposure.Json.Basic
import Exposure.Text.Split

/-!
The values that a module can bind to names, as far as reflection asks for them: plain data, classes
and members of classes, modules, exceptions, and types that are made of other types. The text of a
value has the data as it is written in a source text; the text of a type has classes by their
qualified names.
-/
namespace Exposure

/-- An exception: its class by name and its text. -/
structure Raised where
  className : String
  text : String := ""
  /-- Its class and the ancestors of this, if a source text has made it. -/
  kinds : List ClassId := []
  deriving DecidableEq, Inhabited

namespace Raised

def typeError : Raised := { className := "TypeError" }

def nameError : Raised := { className := "NameError" }

def attributeError : Raised := { className := "AttributeError" }

def valueError : Raised := { className := "ValueError" }

/-- The class whose exceptions are shown with their text. -/
def runtimeError : String := "RuntimeError"

/-- The text of the exceptions that are shown with it; of the others the class alone. -/
def reason (r : Raised) : String :=
  if r.className = runtimeError then r.text else "<" ++ r.className ++ ">"

end Raised

/-- Functions with a meaning of their own. -/
inductive Tool where
  | staticMethod
  | classMethod
  | property
  | abstractMethod
  | final
  /-- Declares that a class implements a marker. -/
  | register (marker : ClassId)
  | typeVariable
  | getAttribute
  | hasAttribute
  | setAttribute
  deriving DecidableEq

inductive Value where
  | null
  | ellipsis
  | bool (b : Bool)
  | int (n : Int)
  /-- None for what lies beyond the largest number. -/
  | float (x : Option Double)
  | text (s : String)
  | bytes (s : String)
  | list (items : List Value)
  | tuple (items : List Value)
  | set (items : List Value)
  | dict (entries : List (Value × Value))
  | filter (f : MethodFilter)
  | type (c : Class)
  | member (m : Member)
  | module (index : Nat)
  | raised (r : Raised)
  | tool (t : Tool)
  /-- A class with types as arguments. -/
  | generic (origin : Class) (arguments : List Value)
  /-- One of several types. -/
  | union (types : List Value)
  /-- A word of the language of types. -/
  | form (name : String)
  | applied (name : String) (arguments : List Value)
  /-- A type that is only named. -/
  | reference (name : String)
  | typeVariable (name : String)
  /-- A value of which nothing is known. -/
  | unknown
  deriving Inhabited

namespace Value

mutual

/-- The value that a document's value stands for. -/
def ofJson : Json → Value
  | .null => null
  | .bool b => bool b
  | .int n => int n
  | .float x => float (some x)
  | .string s => text s
  | .array items => list (ofItems items)
  | .object ms => dict (ofMembers ms)

def ofItems : List Json → List Value
  | [] => []
  | v :: vs => ofJson v :: ofItems vs

def ofMembers : List (String × Json) → List (Value × Value)
  | [] => []
  | (k, v) :: ms => (text k, ofJson v) :: ofMembers ms

end

def isUnknown : Value → Bool
  | unknown => true
  | _ => false

/-- A value counts as true unless it is empty or zero. -/
def truthy : Value → Bool
  | null => false
  | bool b => b
  | int n => n ≠ 0
  | float x => x.all fun x => !x.isZero
  | text s => s ≠ ""
  | bytes s => s ≠ ""
  | list items => !items.isEmpty
  | tuple items => !items.isEmpty
  | set items => !items.isEmpty
  | dict entries => !entries.isEmpty
  | filter f => !f.isEmpty
  | _ => true

/-- A class inside the text of a type; those that need no import stand without their module. -/
def classText (c : Class) : String :=
  if c.moduleName = "builtins" then c.body.qualifier else c.qualifiedName

/-- Bytes as they are written; they are given as the characters of their values. -/
def bytesText (s : String) : List Char :=
  let q := Text.quoteFor s.toList
  let one (c : Char) : List Char :=
    if c.toNat < 127 then Text.escapeChar q c else '\\' :: 'x' :: Text.hexDigits 2 c.toNat
  'b' :: q :: s.toList.flatMap one ++ [q]

def floatText : Option Double → List Char
  | some x => x.format Json.displayStyle
  | none => "inf".toList

/-- Texts with a comma between neighbours. -/
def commaText (texts : List (List Char)) : List Char := Text.joinWith [',', ' '] texts

/-- The texts of arguments inside brackets; without any, an empty pair of parentheses. -/
def argumentText (texts : List (List Char)) : List Char :=
  if texts.isEmpty then ['(', ')'] else commaText texts

/-- A word of the language of types with arguments; a union with nothing is an option. -/
def appliedText (name : String) (texts : List (List Char)) : List Char :=
  let nothing := "NoneType".toList
  let bracketed (name : String) (inner : List Char) : List Char :=
    ("typing." ++ name).toList ++ '[' :: inner ++ [']']
  match name, texts with
  | "Union", [a, b] =>
    if a = nothing then bracketed "Optional" b
    else if b = nothing then bracketed "Optional" a
    else bracketed name (commaText [a, b])
  | "Callable", texts =>
    let parameters := match texts.dropLast with
      | [['.', '.', '.']] => "...".toList
      | ps => '[' :: commaText ps ++ [']']
    bracketed name (commaText [parameters, texts.getLast?.getD []])
  | _, texts => bracketed name (argumentText texts)

mutual

/-- The text of a value inside another one. -/
def display : Value → List Char
  | null => "None".toList
  | ellipsis => "Ellipsis".toList
  | bool b => (if b then "True" else "False").toList
  | int n => (toString n).toList
  | float x => floatText x
  | text s => Text.quoted s.toList
  | bytes s => bytesText s
  | list items => '[' :: commaText (displayItems items) ++ [']']
  | tuple items => match displayItems items with
    | [one] => '(' :: one ++ [',', ')']
    | texts => '(' :: commaText texts ++ [')']
  | set items => match displayItems items with
    | [] => "set()".toList
    | texts => '\x7b' :: commaText texts ++ ['\x7d']
  | dict entries => '\x7b' :: commaText (displayEntries entries) ++ ['\x7d']
  | filter f => f.display.toList
  | type c => ("<class '" ++ classText c ++ "'>").toList
  | generic origin arguments =>
    (classText origin).toList ++ '[' :: argumentText (argumentTexts arguments) ++ [']']
  | union types => Text.joinWith [' ', '|', ' '] (unionTexts types)
  | form name => ("typing." ++ name).toList
  | applied name arguments => appliedText name (argumentTexts arguments)
  | reference name => "ForwardRef(".toList ++ Text.quoted name.toList ++ [')']
  | typeVariable name => '~' :: name.toList
  | _ => "<object>".toList

def displayItems : List Value → List (List Char)
  | [] => []
  | v :: vs => display v :: displayItems vs

def displayEntries : List (Value × Value) → List (List Char)
  | [] => []
  | (k, v) :: es => (display k ++ [':', ' '] ++ display v) :: displayEntries es

/-- The texts of types as arguments of another type. -/
def argumentTexts : List Value → List (List Char)
  | [] => []
  | v :: vs => (match v with
    | ellipsis => "...".toList
    | type c => (classText c).toList
    | v => display v) :: argumentTexts vs

/-- The texts of types in a choice; the class of what stands for nothing stands for that. -/
def unionTexts : List Value → List (List Char)
  | [] => []
  | v :: vs => (match v with
    | type c => (if c.id = .known "builtins.NoneType" then "None" else classText c).toList
    | v => display v) :: unionTexts vs

end

/-- The text of a value on its own: a string stands for itself. -/
def toText : Value → String
  | text s => s
  | v => String.ofList (display v)

/-- The filter that a hook's result stands for. -/
def toFilter : Value → Except Raised MethodFilter
  | filter f => .ok f
  | int n => .ok (.ofInt n)
  | bool b => .ok (.ofInt (if b then 1 else 0))
  | float (some x) =>
    match MethodFilter.familiar.find? fun f => x.equalsInt f.bits with
    | some f => .ok f
    | none => .error .valueError
  | _ => .error .valueError

/-- The purposes that a hook's result stands for: one text, or one for each item. -/
def toPurposes (v : Value) : Except Raised (List String) :=
  match v with
  | text s => .ok [s]
  | list items => .ok (items.map toText)
  | tuple items => .ok (items.map toText)
  | set items => .ok (items.map toText)
  | dict entries => .ok (entries.map fun e => e.1.toText)
  | bytes s => .ok (s.toList.map fun c => toString c.toNat)
  | filter f => .ok (f.members.map fun g => g.2.display)
  | v => if v.truthy then .error .typeError else .ok []

end Value
end Exposure
