import Exposure.Index
import Exposure.Reflection
import Exposure.Scan.Files

/-!
What a source file comes to, and how the reports of files make the result of a discovery. A file
declares no class, its class is not exposed, its class has the facts of a reflection, or something
fails on the way; a failure is told by a line of its own. Reports are merged in the order of the
files. One that tells of a failure adds the file to the failures; so does a reflection whose
purposes cannot be registered, of which what was added before the fault stays.
-/
namespace Exposure

/-- Why a file contributes nothing. -/
inductive FileFault where
  /-- Its bytes are no text. -/
  | notText
  /-- Its module, or one that this needs, raises an exception. -/
  | raised (r : Raised)
  /-- Its module does not have the class that the text declares. -/
  | unresolved (qualifiedName : String) (path : Path)
  | reflection (e : ReflectionError)
  /-- A purpose cannot be registered. -/
  | purpose (fault : PurposeTree.Fault)

namespace FileFault

/-- The exception that a fault of a purpose tree is. -/
def ofTreeFault : PurposeTree.Fault → Raised
  | .notMapping => .attributeError
  | .notIterable => .typeError

/-- An exception in a line: its class, and the text of those that are shown with it. -/
def exceptionText (r : Raised) : String :=
  if r.className = Raised.runtimeError then r.className ++ "(" ++ r.text ++ ")" else r.className

/-- The line for a file that failed. -/
def message (relativePath : String) : FileFault → String
  | notText => "E: " ++ relativePath ++ ": UnicodeDecodeError"
  | raised r => "E: " ++ relativePath ++ ": " ++ exceptionText r
  | unresolved name path => "Class " ++ name ++ " not found (from " ++ path.toString ++ ")"
  | reflection e => e.message
  | purpose fault => "E: " ++ relativePath ++ ": " ++ exceptionText (ofTreeFault fault)

end FileFault

inductive FileOutcome where
  | noClass
  | notExposed (name : String)
  | exposed (reflection : Reflection)

/-- What a file comes to and the class that was found for it, under the name that the file gives
it. -/
structure FileReport where
  file : SourceFile
  outcome : Except FileFault FileOutcome
  found : Option (String × Class) := none

namespace Index

/-- Adds methods in order up to the first with a fault. -/
def addMethods : List MethodReflection → Index → Addition
  | [], i => ⟨i, [], none⟩
  | m :: ms, i =>
    let a := i.addMethod m.record m.purposes
    match a.fault with
    | some _ => a
    | none =>
      let b := addMethods ms a.index
      ⟨b.index, a.logs ++ b.logs, b.fault⟩

/-- Adds a class and then its methods. -/
def addReflection (r : Reflection) (i : Index) : Addition :=
  let a := i.addClass r.record r.purposes
  match a.fault with
  | some _ => a
  | none =>
    let b := addMethods r.methods a.index
    ⟨b.index, a.logs ++ b.logs, b.fault⟩

end Index

/-- The result of a discovery. -/
structure Discovery where
  index : Index := {}
  /-- The classes that were found, exposed or not, under the names that their files give them. -/
  reflections : List (String × Class) := []
  /-- The files that failed, by their paths below the search root. -/
  failures : List String := []

namespace Discovery

def fail (file : SourceFile) (d : Discovery) : Discovery :=
  { d with failures := d.failures ++ [file.relativePath] }

/-- Keeps the class that was found for a file. -/
def keep (found : Option (String × Class)) (d : Discovery) : Discovery :=
  match found with
  | some (name, c) => { d with reflections := Assoc.put name c d.reflections }
  | none => d

/-- The line about a failed file. -/
def failureLine (file : SourceFile) (fault : FileFault) : LogLine :=
  ⟨.error, fault.message file.relativePath⟩

/-- Merges the report of one file, with the lines about it. -/
def merge (d : Discovery) (r : FileReport) : Discovery × List LogLine :=
  let d := d.keep r.found
  match r.outcome with
  | .error fault => (d.fail r.file, [failureLine r.file fault])
  | .ok .noClass => (d, [⟨.debug, "No class declared by " ++ r.file.relativePath⟩])
  | .ok (.notExposed name) => (d, [⟨.debug, name ++ " is not exposed"⟩])
  | .ok (.exposed reflection) =>
    let a := d.index.addReflection reflection
    let d := { d with index := a.index }
    match a.fault with
    | none => (d, a.logs)
    | some fault => (d.fail r.file, a.logs ++ [failureLine r.file (.purpose fault)])

/-- Merges the reports of files in order. -/
def mergeAll : Discovery → List FileReport → Discovery × List LogLine
  | d, [] => (d, [])
  | d, r :: rs =>
    let (d, lines) := d.merge r
    let (d, more) := mergeAll d rs
    (d, lines ++ more)

/-- The line at the end of a discovery. -/
def summary (d : Discovery) : LogLine :=
  ⟨.info, "Indexed " ++ toString d.index.classes.entries.length ++ " exposed classes and "
    ++ toString d.index.methods.entries.length ++ " methods (" ++ toString d.failures.length
    ++ " failures)"⟩

end Discovery
end Exposure
