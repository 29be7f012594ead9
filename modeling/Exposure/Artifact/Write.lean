import Exposure.Artifact.Document
import Exposure.FileSystem.Change
import Exposure.Log

/-!
Writing a file as a whole: the directories above it are made, the bytes go to a new file beside it,
and this takes the place of the old one in a single step. Any step may be refused or cut short; then
the new file is removed again, and the error tells why, while the directories stay. The states that
the file system runs through are part of the outcome.
-/
namespace Exposure

namespace FileSystem

/-- The steps of writing, in order. -/
inductive WriteStep where
  | encode
  | makeDirectories
  | createTemporary
  | writeBytes
  | setMode
  | replace
  deriving DecidableEq

/-- A step that fails for a reason outside of the file system. Of the components that it makes
directories for, or of the bytes that it writes, it comes through so many. -/
structure Interruption where
  step : WriteStep
  passed : Nat := 0

/-- How far a step comes if it is the one that fails. -/
def stopsAt (interruption : Option Interruption) (step : WriteStep) : Option Nat :=
  (interruption.filter (·.step = step)).map (·.passed)

/-- Why a file is not written. -/
inductive WriteError where
  | refused (reason : ChangeError)
  | interrupted (step : WriteStep)
  deriving DecidableEq

/-- The states from the start to the end of writing, and the error if there is one. -/
structure Writing where
  states : List FileSystem
  error : Option WriteError := none

/-- The name of a temporary file for a target. -/
def temporaryName (target : String) (n : Nat) : String :=
  "." ++ target ++ "." ++ toString n ++ ".tmp"

/-- The first temporary name that a directory does not have. -/
def freshName (taken : List String) (target : String) : String :=
  let names := (List.range (taken.length + 1)).map (temporaryName target)
  (names.find? fun n => !taken.contains n).getD (temporaryName target 0)

/-- The names in the directory that a path leads to. -/
def namesIn (fs : FileSystem) (p : Path) : List String :=
  ((fs.entry? p).map fun e => Assoc.keys e.children).getD []

/-- Moves a file to another name in one step. A directory is not replaced, and neither is what the
path reaches without a name of its own. -/
def replaceFile (fs : FileSystem) (source target : Path) (bytes : ByteArray) :
    Except ChangeError FileSystem :=
  if target.name = "" ∨ target.name = ".." then .error .busy
  else (fs.remove source).putAt target (.file bytes)

/-- Writes bytes to a temporary file, which then takes the place of the target. -/
def writeBeside (fs : FileSystem) (temporary target : Path) (bytes : ByteArray)
    (interruption : Option Interruption) : Writing :=
  match stopsAt interruption .createTemporary, fs.putAt temporary (.file ByteArray.empty) with
  | some _, _ => ⟨[], some (.interrupted .createTemporary)⟩
  | none, .error e => ⟨[], some (.refused e)⟩
  | none, .ok created =>
    let filled (n : Nat) : FileSystem :=
      match created.putAt temporary (.file (bytes.extract 0 n)) with
      | .ok fs => fs
      | .error _ => created
    match stopsAt interruption .writeBytes with
    | some n => ⟨[created, filled n, (filled n).remove temporary], some (.interrupted .writeBytes)⟩
    | none =>
      let full := filled bytes.size
      let undone := full.remove temporary
      match stopsAt interruption .setMode, stopsAt interruption .replace,
          full.replaceFile temporary target bytes with
      | some _, _, _ => ⟨[created, full, undone], some (.interrupted .setMode)⟩
      | none, some _, _ => ⟨[created, full, undone], some (.interrupted .replace)⟩
      | none, none, .error e => ⟨[created, full, undone], some (.refused e)⟩
      | none, none, .ok done => ⟨[created, full, done], none⟩

/-- The states while a directory and those above it are made, the outermost first. -/
def makingStates (fs : FileSystem) (p : Path) : List FileSystem :=
  if p.hasNul then [fs]
  else (List.range (p.parts.length + 1)).map fun n => (fs.makeDirectories (p.upTo n)).1

/-- Writes a file as a whole. -/
def writeFile (fs : FileSystem) (target : Path) (bytes : ByteArray)
    (interruption : Option Interruption) : Writing :=
  let making := fs.makingStates target.parent
  match stopsAt interruption .makeDirectories, fs.makeDirectories target.parent with
  | some n, _ => ⟨making.take (n + 1), some (.interrupted .makeDirectories)⟩
  | none, (_, some e) => ⟨making, some (.refused e)⟩
  | none, (ready, none) =>
    if target.hasNul then ⟨making, some (.refused .nulCharacter)⟩
    else
      let temporary := target.parent.child (freshName (ready.namesIn target.parent) target.name)
      let w := writeBeside ready temporary target bytes interruption
      ⟨making ++ w.states, w.error⟩

/-- The state at the end of writing. -/
def Writing.final (w : Writing) : FileSystem := w.states.getLast?.getD default

end FileSystem

namespace Artifact

/-- The lines after an index has been written to a path. -/
def writtenLine (path : Path) : LogLine :=
  ⟨.debug, "Wrote exposed symbols artifact to " ++ path.toString⟩

/-- Writes an index to the file at a path. Its text is encoded before any change. -/
def write (fs : FileSystem) (path : Path) (i : Index)
    (interruption : Option FileSystem.Interruption) : FileSystem.Writing :=
  match FileSystem.stopsAt interruption .encode with
  | some _ => ⟨[fs], some (.interrupted .encode)⟩
  | none => fs.writeFile path (text i).toUTF8 interruption

end Artifact
end Exposure
