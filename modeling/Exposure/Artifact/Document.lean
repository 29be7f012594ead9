import Exposure.FileSystem.Resolve
import Exposure.Index
import Exposure.Json.Basic
import Exposure.Json.Reader
import Exposure.Record.Basic

/-!
The persisted form of an index: an object with two purpose trees and two objects of records. A
section that is missing or empty of content is read as empty. An index is loaded from a document, or
from a file given by its own path or by its directory.
-/
namespace Exposure.Artifact

/-- The file that holds a persisted index. -/
def fileName : String := "exposed_symbols.json"

def classPurposesKey : String := "purposes"

def methodPurposesKey : String := "method_purposes"

def classesKey : String := "classes"

def methodsKey : String := "methods"

/-- The sections of a persisted index. -/
def sectionKeys : List String :=
  [classPurposesKey, methodPurposesKey, classesKey, methodsKey]

def ofIndex (i : Index) : Json :=
  .object [
    (classPurposesKey, i.classPurposes.toJson),
    (methodPurposesKey, i.methodPurposes.toJson),
    (classesKey, .object (i.classes.entries.map fun e => (e.1, e.2.toDocument))),
    (methodsKey, .object (i.methods.entries.map fun e => (e.1, e.2.toDocument)))]

/-- The text of the artifact file. -/
def text (i : Index) : String := (ofIndex i).dump

/-- Why a document is no index. -/
inductive Malformed where
  /-- A tree or a table has the wrong shape. -/
  | shape
  /-- A record is refused. -/
  | record (report : Schema.Report)
  deriving DecidableEq

/-- Stands in messages where the account of a fault is left out. -/
def detailMark : String := "<detail>"

def Malformed.text : Malformed → String
  | shape => detailMark
  | record report => report.text

/-- A section's content; what is missing or empty counts as an empty object. -/
def content (key : String) (ms : List (String × Json)) : Json :=
  match Assoc.get? key ms with
  | some v => if v.truthy then v else .object []
  | none => .object []

def readTree (v : Json) : Except Malformed PurposeTree :=
  match PurposeTree.ofJson v with
  | .ok t => .ok t
  | .error _ => .error .shape

/-- Reads the records of a section in order. -/
def readRecords {α : Type} (read : String → List (String × Json) → Except Schema.Report α) :
    List (String × Json) → Except Malformed (Table α) :=
  List.foldlM (fun t m => do
    let ms ← match (if m.2.truthy then m.2 else .object []) with
      | .object ms => .ok ms
      | _ => .error .shape
    match read m.1 ms with
    | .ok r => .ok (t.insert m.1 r)
    | .error report => .error (.record report)) Table.empty

def readSection {α : Type} (read : String → List (String × Json) → Except Schema.Report α) :
    Json → Except Malformed (Table α)
  | .object ms => readRecords read ms
  | _ => .error .shape

/-- Reads an index from the members of a document. -/
def toIndex (ms : List (String × Json)) : Except Malformed Index := do
  let classPurposes ← readTree (content classPurposesKey ms)
  let methodPurposes ← readTree (content methodPurposesKey ms)
  let classes ← readSection ClassRecord.ofMembers (content classesKey ms)
  let methods ← readSection MethodRecord.ofMembers (content methodsKey ms)
  .ok ⟨classPurposes, methodPurposes, classes, methods⟩

/-- What an index can be loaded from. -/
inductive Source where
  | document (members : List (String × Json))
  | path (text : String)
  /-- Anything else, with the word for its type. -/
  | unsupported (typeName : String)

/-- A source given as a value. -/
def Source.ofJson : Json → Source
  | .object ms => .document ms
  | .string s => .path s
  | .null => .unsupported "NoneType"
  | .bool _ => .unsupported "bool"
  | .int _ => .unsupported "int"
  | .float _ => .unsupported "float"
  | .array _ => .unsupported "list"

inductive LoadError where
  | notFound (path : Path)
  | unsupported (typeName : String)
  | invalidJson (path : Path)
  | notObject (path : Path)
  | malformed (fault : Malformed)
  deriving DecidableEq

namespace LoadError

/-- The artifact is not there at all. -/
def isNotFound : LoadError → Bool
  | notFound _ => true
  | unsupported _ => true
  | _ => false

def message : LoadError → String
  | notFound p => "Could not find exposed symbols artifact: " ++ p.toString
  | unsupported t => "Unsupported exposed symbols source: " ++ t
  | invalidJson p => "Invalid JSON in " ++ p.toString ++ ": " ++ detailMark
  | notObject p => "Exposed symbols artifact " ++ p.toString ++ " is not a JSON object"
  | malformed fault => "Malformed exposed symbols data: " ++ fault.text

end LoadError

/-- The artifact file of a path, which may name its directory. -/
def locate (fs : FileSystem) (p : Path) : Except LoadError Path :=
  let candidate := if fs.isDirectory p then p.child fileName else p
  if fs.isFile candidate then .ok candidate else .error (.notFound candidate)

def ofMembers (ms : List (String × Json)) : Except LoadError Index :=
  match toIndex ms with
  | .ok i => .ok i
  | .error fault => .error (.malformed fault)

/-- Reads an index from the bytes of the file at `p`. -/
def ofBytes (p : Path) (bytes : ByteArray) : Except LoadError Index :=
  match Json.ofBytes? .word bytes with
  | none => .error (.invalidJson p)
  | some (.object ms) => ofMembers ms
  | some _ => .error (.notObject p)

def load (fs : FileSystem) : Source → Except LoadError Index
  | .document ms => ofMembers ms
  | .unsupported t => .error (.unsupported t)
  | .path text => do
    let p ← locate fs (Path.ofString text)
    ofBytes p ((fs.bytes? p).getD ByteArray.empty)

end Exposure.Artifact
