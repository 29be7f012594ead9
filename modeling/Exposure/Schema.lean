import Exposure.Json.Basic

/-!
Checking documents against a schema. A check reads a value or lists every problem it has found,
each with its place, so that one pass reports all of them.
-/
namespace Exposure.Schema

/-- What can be wrong at one place of a document. -/
inductive Problem where
  | notString
  | notBool
  /-- A scalar that could be read as a Boolean but spells none. -/
  | noBoolSpelling
  | notTuple
  | notList
  | notMapping
  | notModel
  | missing
  | unknownKey
  /-- A value of the right shape that its setting refuses, with the reason if it is given. -/
  | refused (reason : Option String)
  deriving DecidableEq

/-- The word for a problem in a report. -/
def Problem.word : Problem → String
  | notString => "string_type"
  | notBool => "bool_type"
  | noBoolSpelling => "bool_parsing"
  | notTuple => "tuple_type"
  | notList => "list_type"
  | notMapping => "dict_type"
  | notModel => "model_type"
  | missing => "missing"
  | unknownKey => "extra_forbidden"
  | refused none => "value_error"
  | refused (some reason) => "value_error(" ++ reason ++ ")"

/-- A problem and the keys and positions that lead to it. -/
structure Issue where
  place : List String
  problem : Problem
  deriving DecidableEq

/-- Everything wrong with a document that was read as the named model. -/
structure Report where
  model : String
  issues : List Issue
  deriving DecidableEq

def Issue.text (i : Issue) : String := ".".intercalate i.place ++ ":" ++ i.problem.word

def Report.text (r : Report) : String :=
  r.model ++ "[" ++ "; ".intercalate (r.issues.map Issue.text) ++ "]"

/-- The outcome of a check. -/
inductive Checked (α : Type) where
  | valid (value : α)
  | invalid (issues : List Issue)

namespace Checked

variable {α β : Type}

def map (f : α → β) : Checked α → Checked β
  | valid a => valid (f a)
  | invalid is => invalid is

/-- Both outcomes, with the problems of both. -/
def both (f : α → β → γ) : Checked α → Checked β → Checked γ
  | valid a, valid b => valid (f a b)
  | valid _, invalid js => invalid js
  | invalid is, valid _ => invalid is
  | invalid is, invalid js => invalid (is ++ js)

/-- Moves the problems under a key. -/
def under (key : String) : Checked α → Checked α
  | valid a => valid a
  | invalid is => invalid (is.map fun i => { i with place := key :: i.place })

def fail (p : Problem) : Checked α := invalid [⟨[], p⟩]

/-- Every check in order, with the problems of all. -/
def all (f : α → Checked β) : List α → Checked (List β)
  | [] => valid []
  | a :: as => both List.cons (f a) (all f as)

instance : Functor Checked := ⟨map, fun a => map fun _ => a⟩

instance : Seq Checked := ⟨fun f x => both (fun g a => g a) f (x ())⟩

/-- The value, or a report about the named model. -/
def toExcept (model : String) : Checked α → Except Report α
  | valid a => .ok a
  | invalid is => .error ⟨model, is⟩

end Checked

open Checked

def string : Json → Checked String
  | .string s => valid s
  | _ => fail .notString

/-- A string or null. -/
def stringOrNull : Json → Checked (Option String)
  | .null => valid none
  | .string s => valid (some s)
  | _ => fail .notString

def trueSpellings : List String := ["1", "t", "true", "y", "yes", "on"]

def falseSpellings : List String := ["0", "f", "false", "n", "no", "off"]

/-- A Boolean, or a scalar that spells one; letters of a spelling may be of either case. -/
def flag : Json → Checked Bool
  | .bool b => valid b
  | .int n =>
    if n = 0 then valid false else if n = 1 then valid true
    else if -(twoTo 63 : Int) ≤ n ∧ n < twoTo 63 then fail .noBoolSpelling else fail .notBool
  | .float x =>
    if x.equalsInt 0 then valid false else if x.equalsInt 1 then valid true else fail .notBool
  | .string s =>
    let t := String.ofList (s.toList.map Char.toLower)
    if trueSpellings.contains t then valid true
    else if falseSpellings.contains t then valid false
    else fail .noBoolSpelling
  | _ => fail .notBool

/-- An array with every item checked; anything else is the given problem. -/
def arrayOf (other : Problem) (check : Json → Checked α) : Json → Checked (List α)
  | .array items => Checked.all (fun p => under (toString p.2) (check p.1)) items.zipIdx
  | _ => fail other

/-- An object of strings. -/
def stringMap : Json → Checked (List (String × String))
  | .object ms => Checked.all (fun m => under m.1 ((string m.2).map fun s => (m.1, s))) ms
  | _ => fail .notMapping

/-- The first of the accepted keys that the object has, checked. -/
def optional (keys : List String) (check : Json → Checked α) (absent : α)
    (ms : List (String × Json)) : Checked α :=
  match keys.findSome? fun k => (Assoc.get? k ms).map fun v => (k, v) with
  | some (k, v) => under k (check v)
  | none => valid absent

/-- A key that the object must have, checked. -/
def required (key : String) (check : Json → Checked α) (ms : List (String × Json)) : Checked α :=
  match Assoc.get? key ms with
  | some v => under key (check v)
  | none => under key (fail .missing)

/-- The key among the accepted ones that the object is read by. -/
def usedKey? (keys : List String) (ms : List (String × Json)) : Option String :=
  keys.find? fun k => (Assoc.get? k ms).isSome

/-- Keys of the object that no field is read by, in the order of the object. -/
def noOthers (fields : List (List String)) (ms : List (String × Json)) : Checked Unit :=
  let used := fields.filterMap (usedKey? · ms)
  match ms.filter fun m => !used.contains m.1 with
  | [] => valid ()
  | rest => invalid (rest.map fun m => ⟨[m.1], .unknownKey⟩)

end Exposure.Schema
