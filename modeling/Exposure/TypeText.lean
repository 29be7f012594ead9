import Exposure.Value

/-!
Types that are made of other types, and the text of a type as a record keeps it. A type with
arguments, a choice among types and a word of the language of types are written as in a source text,
classes by their qualified names. A word that is given the wrong arguments makes no type.
-/
namespace Exposure

/-- The class of the value that stands for nothing. -/
def Class.nothing : Class := .ofKnown "builtins" "NoneType" [.root]

namespace Value

mutual

/-- Equality of types. -/
def sameType : Value → Value → Bool
  | null, null => true
  | ellipsis, ellipsis => true
  | bool a, bool b => a == b
  | int a, int b => a == b
  | text a, text b => a == b
  | type c, type d => c == d
  | tuple as, tuple bs => sameTypes as bs
  | list as, list bs => sameTypes as bs
  | generic c as, generic d bs => c == d && sameTypes as bs
  | form a, form b => a == b
  | applied a as, applied b bs => a == b && sameTypes as bs
  | union as, union bs => sameTypes as bs
  | reference a, reference b => a == b
  | typeVariable a, typeVariable b => a == b
  | _, _ => false

def sameTypes : List Value → List Value → Bool
  | [], [] => true
  | a :: as, b :: bs => sameType a b && sameTypes as bs
  | _, _ => false

end

/-- The types without repetition, each at its first place. -/
def distinctTypes (types : List Value) : List Value :=
  types.foldl (fun ts t => if ts.any (sameType t) then ts else ts ++ [t]) []

/-- The class of a class, for what stands for nothing the class of that. -/
def asType : Value → Value
  | null => type .nothing
  | v => v

/-- A type that an operator joins with others by itself. -/
def isPlainType : Value → Bool
  | null => true
  | type _ => true
  | generic _ _ => true
  | union _ => true
  | _ => false

/-- A type of the language of types. -/
def isForm : Value → Bool
  | form _ => true
  | applied _ _ => true
  | typeVariable _ => true
  | reference _ => true
  | _ => false

/-- A type as argument of a word: what is only named becomes a reference. -/
def argument : Value → Value
  | null => type .nothing
  | text s => reference s
  | v => v

/-- Words that are no types by themselves. -/
def bareWords : List String :=
  ["Annotated", "ClassVar", "Concatenate", "Final", "Literal", "NotRequired", "Optional",
    "Required", "TypeGuard", "Union", "Unpack"]

/-- A value that cannot be an argument of a word. -/
def isBadArgument : Value → Bool
  | tuple _ => true
  | form name => bareWords.contains name
  | type c => c.id == .generic || c.id == .protocol
  | applied name _ => name = "ClassVar" || name = "Final"
  | _ => false

def arguments (items : List Value) : Except Raised (List Value) :=
  let items := items.map argument
  if items.any isBadArgument then .error .typeError else .ok items

/-- The members of a choice, for any other type itself. -/
def alternatives : Value → List Value
  | union types => types
  | applied "Union" types => types
  | v => [v]

/-- A choice in the language of types: flat, without repetition, a single type itself. -/
def choice (items : List Value) : Except Raised Value := do
  let types := distinctTypes ((← arguments items).flatMap alternatives)
  match types with
  | [] => throw .typeError
  | [t] => return t
  | types => return applied "Union" types

/-- The words that take a fixed number of types. -/
def arities : List (String × Nat) := [
  ("AbstractSet", 1), ("AsyncContextManager", 1), ("AsyncGenerator", 2), ("AsyncIterable", 1),
  ("AsyncIterator", 1), ("Awaitable", 1), ("ChainMap", 2), ("ClassVar", 1), ("Collection", 1),
  ("Container", 1), ("ContextManager", 1), ("Coroutine", 3), ("Counter", 1), ("DefaultDict", 2),
  ("Deque", 1), ("Dict", 2), ("Final", 1), ("FrozenSet", 1), ("Generator", 3), ("ItemsView", 2),
  ("Iterable", 1), ("Iterator", 1), ("KeysView", 1), ("List", 1), ("Mapping", 2),
  ("MappingView", 1), ("Match", 1), ("MutableMapping", 2), ("MutableSequence", 1),
  ("MutableSet", 1), ("NotRequired", 1), ("OrderedDict", 2), ("Pattern", 1), ("Required", 1),
  ("Reversible", 1), ("Sequence", 1), ("Set", 1), ("Type", 1), ("TypeGuard", 1), ("Unpack", 1),
  ("ValuesView", 1)]

/-- The items of an index: those of a tuple, or the index alone. -/
def indexItems : Value → List Value
  | tuple items => items
  | v => [v]

/-- The arguments of the word for sequences of fixed length; dots at the end mean any length. -/
def tupleArguments (items : List Value) : Except Raised (List Value) :=
  match items.reverse with
  | ellipsis :: a :: r => do return (← arguments (a :: r).reverse) ++ [ellipsis]
  | _ => arguments items

/-- A word with its arguments. -/
def applyForm (name : String) (index : Value) : Except Raised Value :=
  let items := indexItems index
  match name with
  | "Union" => choice items
  | "Optional" => match index with
    | tuple _ => .error .typeError
    | v => choice [v, null]
  | "Literal" => .ok (applied name (distinctTypes items))
  | "Tuple" => do return applied name (← tupleArguments items)
  | "Callable" => match items with
    | [list parameters, result] => do
      return applied name ((← arguments parameters) ++ (← arguments [result]))
    | [ellipsis, result] => do return applied name (ellipsis :: (← arguments [result]))
    | _ => .error .typeError
  | _ => match arities.lookup name with
    | some n =>
      if items.length = n then do return applied name (← arguments items) else .error .typeError
    | none => .error .typeError

/-- Classes that take types as arguments. -/
def genericClasses : List String := [
  "builtins.dict", "builtins.frozenset", "builtins.list", "builtins.set", "builtins.tuple",
  "builtins.type", "os.PathLike", "os.DirEntry", "re.Match", "re.Pattern",
  "logging.LoggerAdapter", "logging.StreamHandler"]

/-- The value with an index behind it, as far as it is a type. -/
def withIndex (base index : Value) : Except Raised Value :=
  match base with
  | type c =>
    if genericClasses.any fun n => c.derivesFrom (.known n) then .ok (generic c (indexItems index))
    else if (c.lookup? "__class_getitem__").isSome then .ok unknown
    else if c.id = .known "typing.Annotated" then
      match indexItems index with
      | t :: a :: r => do
        let ts ← arguments [t]
        return applied "Annotated" (ts ++ a :: r)
      | _ => .error .typeError
    else .error .typeError
  | form name => applyForm name index
  | unknown => .ok unknown
  | _ => .error .typeError

/-- A choice between two types, or the union of two sets of flags. -/
def either (a b : Value) : Except Raised Value :=
  match a, b with
  | filter f, filter g => .ok (filter (f.union g))
  | int m, int n => .ok (int (Int.ofNat (m.toNat ||| n.toNat)))
  | null, null => .error .typeError
  | unknown, _ => .ok unknown
  | _, unknown => .ok unknown
  | a, b =>
    if a.isPlainType && b.isPlainType then
      match distinctTypes ((a.asType.alternatives ++ b.asType.alternatives)) with
      | [t] => .ok t
      | types => .ok (union types)
    else if a.isForm || b.isForm then choice [a, b]
    else .error .typeError

/-- The text without a piece wherever this occurs. -/
def withoutPiece (piece : List Char) (fuel : Nat) (s : List Char) : List Char :=
  match fuel, s with
  | 0, s => s
  | _, [] => []
  | fuel + 1, c :: r =>
    if piece.isPrefixOf (c :: r) then withoutPiece piece fuel ((c :: r).drop piece.length)
    else c :: withoutPiece piece fuel r

/-- The text of a type in a record: a string is its own text. -/
def typeText : Value → String
  | text s => s
  | null => "None"
  | type c => if c == .nothing then "None" else classText c
  | v =>
    let s := v.toText.toList
    String.ofList (withoutPiece "typing.".toList s.length s)

end Value
end Exposure
