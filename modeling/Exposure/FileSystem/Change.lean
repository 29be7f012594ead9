import Exposure.FileSystem.Resolve

/-!
Changing a file system: making directories, with all that are missing on the way, and putting a
file in place of what a path names.
-/
namespace Exposure.FileSystem

/-- Why a change is refused. -/
inductive ChangeError where
  /-- Something other than a directory has the name. -/
  | fileExists
  /-- A component on the way is not a directory. -/
  | notDirectory
  /-- A directory has the name of a file to be put in place. -/
  | isDirectory
  | missing
  | linkLoop
  /-- The path holds the character that no path may hold. -/
  | nulCharacter
  /-- The path ends in no name of its own: in nothing or in two dots. -/
  | busy
  deriving DecidableEq

/-- Makes one directory in an existing one. A name that is taken is refused, unless it leads to a
directory. -/
def makeDirectory (fs : FileSystem) (p : Path) : Except ChangeError FileSystem :=
  match fs.walk false p with
  | .entry _ _ => if fs.isDirectory p then .ok fs else .error .fileExists
  | .notDirectory => .error .notDirectory
  | .loop => .error .linkLoop
  | .missing =>
    match fs.walk true p.parent with
    | .entry position (.directory _) =>
      .ok { fs with root := Entry.put (.directory []) (position ++ [p.name]) fs.root }
    | .entry _ _ => .error .notDirectory
    | .notDirectory => .error .notDirectory
    | .loop => .error .linkLoop
    | .missing => .error .missing

/-- Makes a directory and those above it that are missing; `depth` counts the components. What was
made before a refusal stays. -/
def makeDirectoriesWithin (depth : Nat) (fs : FileSystem) (p : Path) :
    FileSystem × Option ChangeError :=
  match fs.makeDirectory p, depth with
  | .ok fs', _ => (fs', none)
  | .error .missing, depth + 1 =>
    match makeDirectoriesWithin depth fs p.parent with
    | (fs', none) =>
      match fs'.makeDirectory p with
      | .ok fs'' => (fs'', none)
      | .error e => (fs', some e)
    | (fs', some e) => (fs', some e)
  | .error e, _ => (fs, some e)

def makeDirectories (fs : FileSystem) (p : Path) : FileSystem × Option ChangeError :=
  if p.hasNul then (fs, some .nulCharacter) else makeDirectoriesWithin p.parts.length fs p

/-- Puts an entry under a name of the directory that the parent path leads to. -/
def putAt (fs : FileSystem) (p : Path) (e : Entry) : Except ChangeError FileSystem :=
  match fs.walk true p.parent with
  | .entry position (.directory cs) =>
    match Assoc.get? p.name cs with
    | some (.directory _) => .error .isDirectory
    | _ => .ok { fs with root := Entry.put e (position ++ [p.name]) fs.root }
  | .entry _ _ => .error .notDirectory
  | .notDirectory => .error .notDirectory
  | .loop => .error .linkLoop
  | .missing => .error .missing

/-- Removes what the path names, a link itself and not its target. -/
def remove (fs : FileSystem) (p : Path) : FileSystem :=
  match fs.walk true p.parent with
  | .entry position (.directory _) => { fs with root := fs.root.remove (position ++ [p.name]) }
  | _ => fs

end Exposure.FileSystem
