import Exposure.Glob
import Exposure.Json.Basic
import Exposure.Text.Case
import Exposure.Text.Split

/-!
Purpose trees: nested mappings from tokens to nodes. The reserved key `#` of a node holds its
bucket, the names registered exactly there. A tree built by registration or read from a document
has an object under every other key; a tree handed in raw may have anything.

Tags and search patterns are dotted text, compared in uppercase. Tokens between dots may be empty;
in a tag they are dropped, in a pattern they select recursively. A search visits nodes depth first
in the order of the mapping, a node's own bucket before its children. Each pattern token selects
among the children of the nodes selected so far; from the first empty token on every node below is
selected.
-/
namespace Exposure.Purpose

/-- The uppercase parts of a tag or pattern between its dots, empty ones kept. -/
def tokens (tag : String) : List String := Text.splitString '.' (Text.upperString tag)

/-- The tokens that address a node, none for a tag without any. -/
def address (tag : String) : List String :=
  (tokens (String.ofList (Text.strip tag.toList))).filter (· ≠ "")

/-- A pattern token selects a node name, as itself or as a glob. -/
def selects (token name : String) : Bool := token == name || Glob.isMatch token name

/-- Only empty tokens are left: the pattern is satisfied at this node. -/
def isTerminal (pattern : List String) : Bool := pattern.all (· == "")

/-- The path of a node below another one; a path without text adds no dot. -/
def extendPath (path name : String) : String := if path = "" then name else path ++ "." ++ name

end Exposure.Purpose

namespace Exposure

/-- The reserved key of a node's own bucket. -/
def bucketKey : String := "#"

structure PurposeTree where
  members : List (String × Json) := []
  deriving Inhabited

namespace PurposeTree

/-- What can stand in a tree's way. -/
inductive Fault where
  /-- A mapping or a list was needed where something else stands. -/
  | notMapping
  /-- A bucket was needed where a value without items stands. -/
  | notIterable
  deriving DecidableEq

/-- The items of a bucket: an array's items, an object's keys, a string's characters. -/
def bucketItems : Json → Except Fault (List Json)
  | .array items => .ok items
  | .object ms => .ok (ms.map fun m => .string m.1)
  | .string s => .ok (s.toList.map fun c => .string (String.ofList [c]))
  | _ => .error .notIterable

mutual

/-- What stands in the way of reading the members as a tree, if anything does. -/
def memberFault? : List (String × Json) → Option Fault
  | [] => none
  | (k, v) :: ms =>
    let own := if k = bucketKey then
        match bucketItems v with
        | .ok _ => none
        | .error e => some e
      else nodeFault? v
    own.or (memberFault? ms)

def nodeFault? : Json → Option Fault
  | .object ms => memberFault? ms
  | _ => some .notMapping

end

/-- A bucket as an array of its items. -/
def normalBucket (v : Json) : Json :=
  match bucketItems v with
  | .ok items => .array items
  | .error _ => v

mutual

/-- The members with every bucket an array. -/
def normalMembers : List (String × Json) → List (String × Json)
  | [] => []
  | (k, v) :: ms =>
    (k, if k = bucketKey then normalBucket v else normalNode v) :: normalMembers ms

def normalNode : Json → Json
  | .object ms => .object (normalMembers ms)
  | v => v

end

/-- Reads a tree from a document. -/
def ofJson : Json → Except Fault PurposeTree
  | .object ms =>
    match memberFault? ms with
    | none => .ok ⟨normalMembers ms⟩
    | some e => .error e
  | _ => .error .notMapping

/-- The document form of a tree. -/
def toJson (t : PurposeTree) : Json := .object (normalMembers t.members)

def isEmpty (t : PurposeTree) : Bool := t.members.isEmpty

/-- Equality of trees: children in any order, buckets in order. -/
def same (s t : PurposeTree) : Bool := Json.same (.object s.members) (.object t.members)

/-- Appends a name to the bucket of a node with these members. -/
def appendName (name : String) (node : List (String × Json)) :
    Except Fault (List (String × Json)) :=
  match Assoc.get? bucketKey node with
  | none => .ok (Assoc.put bucketKey (.array [.string name]) node)
  | some (.array names) => .ok (Assoc.put bucketKey (.array (names ++ [.string name])) node)
  | some _ => .error .notMapping

/-- Registers a name at an address below a node with these members. Nodes on the way are made with
an empty bucket, and stay when the registration fails further down. -/
def registerBelow (name : String) :
    List String → List (String × Json) → List (String × Json) × Option Fault
  | [], node =>
    match appendName name node with
    | .ok node' => (node', none)
    | .error e => (node, some e)
  | t :: ts, node =>
    match Assoc.get? t node with
    | some (.object child) =>
      let (child', fault) := registerBelow name ts child
      (Assoc.put t (.object child') node, fault)
    | some _ => (node, some .notMapping)
    | none =>
      let fresh := if ts.isEmpty then [] else [(bucketKey, .array [])]
      let (child', fault) := registerBelow name ts fresh
      (Assoc.put t (.object child') node, fault)

/-- Why a registration fails. -/
inductive RegisterError where
  /-- The tag has no token. -/
  | noTokens (tag : String)
  /-- The address runs through a bucket. -/
  | blocked (fault : Fault)
  deriving DecidableEq

/-- The wording of an unusable tag. -/
def noTokensMessage (tag : String) : String :=
  "Purpose tag " ++ Text.quotedString tag ++ " has no tokens"

/-- Registers a name under a tag. The tree is returned in every case, with what a failed
registration had already added. -/
def register (tag name : String) (t : PurposeTree) : PurposeTree × Option RegisterError :=
  match Purpose.address tag with
  | [] => (t, some (.noTokens tag))
  | path =>
    let (members, fault) := registerBelow name path t.members
    (⟨members⟩, fault.map .blocked)

end PurposeTree
end Exposure

namespace Exposure.PurposeTree

/-- A bucket entry with the path of its node. -/
abbrev Hit := String × Json

/-- The entries of a node's own bucket. -/
def ownEntries (path : String) : Json → Except Fault (List Hit)
  | .object ms =>
    match Assoc.get? bucketKey ms with
    | some bucket => (bucketItems bucket).map fun es => es.map fun e => (path, e)
    | none => .ok []
  | _ => .error .notMapping

mutual

/-- Searches the nodes below `node`, which has the given path. `passing` is set once an empty token
has been met; `ancestors` asks for the buckets on the way to a match too. -/
def searchNode (pattern : List String) (path : String) (passing ancestors : Bool) :
    Json → Except Fault (List Hit)
  | .object ms =>
    if pattern.isEmpty && !passing then .ok []
    else searchMembers pattern path passing ancestors ms
  | _ => if pattern.isEmpty && !passing then .ok [] else .error .notMapping

def searchMembers (pattern : List String) (path : String) (passing ancestors : Bool) :
    List (String × Json) → Except Fault (List Hit)
  | [] => .ok []
  | (name, child) :: rest =>
    let token := pattern.headD ""
    let remaining := pattern.tail
    let recursive := passing || token == ""
    if name ≠ bucketKey ∧ (recursive ∨ Purpose.selects token name) then do
      let childPath := Purpose.extendPath path name
      let own ← if ancestors || Purpose.isTerminal remaining then ownEntries childPath child
        else .ok []
      let below ← searchNode remaining childPath recursive ancestors child
      let others ← searchMembers pattern path passing ancestors rest
      .ok (own ++ below ++ others)
    else searchMembers pattern path passing ancestors rest

end

/-- The entries that a pattern selects, with the paths of their nodes. -/
def search (pattern : String) (ancestors : Bool) (t : PurposeTree) : Except Fault (List Hit) :=
  searchMembers (Purpose.tokens pattern) "" false ancestors t.members

/-- Every registered name in tree order. -/
def names (t : PurposeTree) : Except Fault (List Json) :=
  (t.search "." false).map fun hits => hits.map Prod.snd

end Exposure.PurposeTree
