import Exposure.Assoc
import Exposure.Number.Double
import Exposure.Text.Letter

/-!
JSON values whose objects keep the order of their members. `same` compares values the way tables
compare: members in any order, array items in order, numbers by value with a Boolean counted as
zero or one. `display` is the text of a value inside messages.

The written form of a value has two spaces of indentation, a space after each colon and a newline at
the end. Strings keep every character but the quote, the backslash and the controls below space.
-/
namespace Exposure

inductive Json where
  | null
  | bool (b : Bool)
  | int (n : Int)
  | float (x : Double)
  | string (s : String)
  | array (items : List Json)
  | object (members : List (String × Json))
  deriving Inhabited

namespace Json

/-- Everything but null, false, zero and what is empty. -/
def truthy : Json → Bool
  | null => false
  | bool b => b
  | int n => n != 0
  | float x => !x.isZero
  | string s => s != ""
  | array items => !items.isEmpty
  | object members => !members.isEmpty

/-- The members of an object. -/
def members? : Json → Option (List (String × Json))
  | object ms => some ms
  | _ => none

/-- The items of an array. -/
def items? : Json → Option (List Json)
  | array items => some items
  | _ => none

/-- The text of a string. -/
def string? : Json → Option String
  | string s => some s
  | _ => none

/-- The member of an object under a key. -/
def get? (key : String) : Json → Option Json
  | object ms => Assoc.get? key ms
  | _ => none

/-- An array of strings. -/
def strings (ss : List String) : Json := array (ss.map string)

/-- The number behind a Boolean or an integer. -/
def integer? : Json → Option Int
  | bool b => some (if b then 1 else 0)
  | int n => some n
  | _ => none

/-- Equality of scalars by value. -/
def sameScalar : Json → Json → Bool
  | null, null => true
  | string s, string t => s == t
  | float x, float y => x.sameValue y
  | float x, v => match v.integer? with
    | some n => x.equalsInt n
    | none => false
  | v, float x => match v.integer? with
    | some n => x.equalsInt n
    | none => false
  | v, w => match v.integer?, w.integer? with
    | some m, some n => m == n
    | _, _ => false

mutual

/-- Equality of values, members of objects in any order. -/
def same : Json → Json → Bool
  | array xs, array ys => sameItems xs ys
  | object ms, object ns => ms.length == ns.length && sameMembers ms ns
  | v, w => sameScalar v w

def sameItems : List Json → List Json → Bool
  | [], [] => true
  | x :: xs, y :: ys => same x y && sameItems xs ys
  | _, _ => false

/-- Every member of the first list has an equal one under its key in the second. -/
def sameMembers : List (String × Json) → List (String × Json) → Bool
  | [], _ => true
  | (k, v) :: ms, ns =>
    (match Assoc.get? k ns with
      | some w => same v w
      | none => false) && sameMembers ms ns

end

/-- Numbers inside messages: positional from `1e-4` up to `1e16`. -/
def displayStyle : FloatStyle := ⟨-3, 16, true, 2⟩

mutual

/-- The text of a value nested in a message, strings in quotes. -/
def display : Json → List Char
  | null => "None".toList
  | bool b => (if b then "True" else "False").toList
  | int n => (toString n).toList
  | float x => x.format displayStyle
  | string s => Text.quoted s.toList
  | array items => '[' :: displayItems items ++ [']']
  | object ms => '\x7b' :: displayMembers ms ++ ['\x7d']

def displayItems : List Json → List Char
  | [] => []
  | [v] => display v
  | v :: w :: vs => display v ++ [',', ' '] ++ displayItems (w :: vs)

def displayMembers : List (String × Json) → List Char
  | [] => []
  | [(k, v)] => Text.quoted k.toList ++ [':', ' '] ++ display v
  | (k, v) :: m :: ms =>
    Text.quoted k.toList ++ [':', ' '] ++ display v ++ [',', ' '] ++ displayMembers (m :: ms)

end

/-- The text of a value on its own: a string stands for itself. -/
def text : Json → String
  | string s => s
  | v => String.ofList (display v)


/-- Numbers in documents: positional from `1e-5` up to `1e16`. -/
def numberStyle : FloatStyle := ⟨-4, 16, false, 1⟩

/-- One character of a string. -/
def escapeChar (c : Char) : List Char :=
  if c = '"' then ['\\', '"']
  else if c = '\\' then ['\\', '\\']
  else if c.toNat = 8 then ['\\', 'b']
  else if c.toNat = 9 then ['\\', 't']
  else if c.toNat = 10 then ['\\', 'n']
  else if c.toNat = 12 then ['\\', 'f']
  else if c.toNat = 13 then ['\\', 'r']
  else if c.toNat < 32 then '\\' :: 'u' :: Text.hexDigits 4 c.toNat
  else [c]

/-- A string in its quotes. -/
def writeString (s : String) : List Char := '"' :: s.toList.flatMap escapeChar ++ ['"']

/-- A line break and the indentation of the given depth. -/
def lineBreak (depth : Nat) : List Char := '\n' :: List.replicate (2 * depth) ' '

mutual

/-- A value written at the given depth. -/
def write (depth : Nat) : Json → List Char
  | null => "null".toList
  | bool b => (if b then "true" else "false").toList
  | int n => (toString n).toList
  | float x => x.format numberStyle
  | string s => writeString s
  | array [] => ['[', ']']
  | array (v :: vs) =>
    '[' :: lineBreak (depth + 1) ++ write (depth + 1) v ++ writeItems (depth + 1) vs
      ++ lineBreak depth ++ [']']
  | object [] => ['\x7b', '\x7d']
  | object ((k, v) :: ms) =>
    '\x7b' :: lineBreak (depth + 1) ++ writeString k ++ [':', ' '] ++ write (depth + 1) v
      ++ writeMembers (depth + 1) ms ++ lineBreak depth ++ ['\x7d']

/-- The items after the first. -/
def writeItems (depth : Nat) : List Json → List Char
  | [] => []
  | v :: vs => ',' :: lineBreak depth ++ write depth v ++ writeItems depth vs

/-- The members after the first. -/
def writeMembers (depth : Nat) : List (String × Json) → List Char
  | [] => []
  | (k, v) :: ms =>
    ',' :: lineBreak depth ++ writeString k ++ [':', ' '] ++ write depth v ++ writeMembers depth ms

end

/-- The text of a document. -/
def dump (v : Json) : String := String.ofList (write 0 v ++ ['\n'])

end Json
end Exposure
