import Exposure.Assoc
import Exposure.FileSystem.Path

/-!
What a file system holds, and following paths through it. An entry is a file, a symbolic link or a
directory. A position is the list of names that leads from the root to an entry without following
any link.

`walk` follows a path as opening a file does and gives up after forty links; `realPath` replaces
every link on a path, past what does not exist. A link that leads back to itself stays, and the path
is refused if following it would never end.
-/
namespace Exposure

inductive Entry where
  | file (bytes : ByteArray)
  | link (target : String)
  | directory (children : List (String × Entry))
  deriving Inhabited

namespace Entry

/-- The children of a directory. -/
def children : Entry → List (String × Entry)
  | directory cs => cs
  | _ => []

def isDirectory : Entry → Bool
  | directory _ => true
  | _ => false

def isFile : Entry → Bool
  | file _ => true
  | _ => false

def isLink : Entry → Bool
  | link _ => true
  | _ => false

/-- The entry at a position. -/
def at? : List String → Entry → Option Entry
  | [], e => some e
  | name :: rest, e => (Assoc.get? name e.children).bind (at? rest)

/-- Puts an entry at a position whose parent is a directory; otherwise nothing changes. -/
def put (new : Entry) : List String → Entry → Entry
  | [], _ => new
  | [name], directory cs => directory (Assoc.put name new cs)
  | name :: rest, directory cs =>
    match Assoc.get? name cs with
    | some e => directory (Assoc.put name (put new rest e) cs)
    | none => directory cs
  | _, e => e

/-- Removes the entry at a position. -/
def remove : List String → Entry → Entry
  | [name], directory cs => directory (cs.filter fun c => c.1 ≠ name)
  | name :: rest, directory cs =>
    match Assoc.get? name cs with
    | some e => directory (Assoc.put name (remove rest e) cs)
    | none => directory cs
  | _, e => e

mutual

/-- The positions and entries below a directory, each directory before what it holds; links are
listed and not entered. -/
def descendants (at_ : List String) : Entry → List (List String × Entry)
  | directory cs => childDescendants at_ cs
  | _ => []

def childDescendants (at_ : List String) :
    List (String × Entry) → List (List String × Entry)
  | [] => []
  | (name, e) :: cs =>
    (at_ ++ [name], e) :: descendants (at_ ++ [name]) e ++ childDescendants at_ cs

end

/-- The links below a directory. -/
def links (e : Entry) : List (List String × Entry) :=
  (descendants [] e).filter fun d => d.2.isLink

end Entry

/-- A tree of entries and the position that relative paths start from. -/
structure FileSystem where
  root : Entry
  workingDirectory : List String
  deriving Inhabited

namespace FileSystem

/-- What is found at the end of a path. -/
inductive Found where
  | entry (position : List String) (entry : Entry)
  /-- Nothing has this name. -/
  | missing
  /-- A component other than the last is not a directory. -/
  | notDirectory
  /-- Too many links. -/
  | loop
  deriving Inhabited

/-- Most links that one path may run through. -/
def linkLimit : Nat := 40

/-- The components of a path and where they start. -/
def start (fs : FileSystem) (p : Path) : List String :=
  if p.isAbsolute then [] else fs.workingDirectory

/-- Follows components from a position. A link at the end is followed only if asked. -/
def walkFrom (root : Entry) (follow : Bool) (budget : Nat) (at_ : List String) :
    List String → Found
  | [] =>
    match root.at? at_ with
    | some e => .entry at_ e
    | none => .missing
  | name :: rest =>
    match root.at? at_ with
    | some (.directory cs) =>
      if name = ".." then walkFrom root follow budget at_.dropLast rest
      else
        match Assoc.get? name cs with
        | none => .missing
        | some (.link target) =>
          if rest.isEmpty && !follow then .entry (at_ ++ [name]) (.link target)
          else
            match budget with
            | 0 => .loop
            | budget + 1 =>
              let t := Path.ofString target
              walkFrom root follow budget (if t.isAbsolute then [] else at_) (t.parts ++ rest)
        | some _ => walkFrom root follow budget (at_ ++ [name]) rest
    | some _ => .notDirectory
    | none => .missing
termination_by todo => (budget, todo.length)

def walk (fs : FileSystem) (follow : Bool) (p : Path) : Found :=
  if p.hasNul then .missing
  else walkFrom fs.root follow linkLimit (fs.start p) p.parts

/-- The entry that a path leads to, links followed. -/
def entry? (fs : FileSystem) (p : Path) : Option Entry :=
  match fs.walk true p with
  | .entry _ e => some e
  | _ => none

def isFile (fs : FileSystem) (p : Path) : Bool := (fs.entry? p).any (·.isFile)

def isDirectory (fs : FileSystem) (p : Path) : Bool := (fs.entry? p).any (·.isDirectory)

def pathExists (fs : FileSystem) (p : Path) : Bool := (fs.entry? p).isSome

/-- The path itself is a link. -/
def isLink (fs : FileSystem) (p : Path) : Bool :=
  match fs.walk false p with
  | .entry _ e => e.isLink
  | _ => false

/-- The bytes of the file that a path leads to. -/
def bytes? (fs : FileSystem) (p : Path) : Option ByteArray :=
  match fs.entry? p with
  | some (.file b) => some b
  | _ => none

/-- Components with every pair of dots taken back by the component before it. -/
def collapse (parts : List String) : List String :=
  parts.foldl (fun at_ name => if name = ".." then at_.dropLast else at_ ++ [name]) []

/-- Replaces the links among the components; `active` holds the links that are being replaced.
Where one of them comes up again it stays, with all that is behind it: the error. The fuel counts
links that are not active. -/
def realFrom (root : Entry) (fuel : Nat) (active : List (List String)) (at_ : List String) :
    List String → Except (List String) (List String)
  | [] => .ok at_
  | name :: rest =>
    if name = ".." then realFrom root fuel active at_.dropLast rest
    else
      let next := at_ ++ [name]
      match root.at? next with
      | some (.link target) =>
        if active.contains next then .error (next ++ rest)
        else
          match fuel with
          | 0 => .error (next ++ rest)
          | fuel' + 1 =>
            let t := Path.ofString target
            let start := if t.isAbsolute then [] else at_
            match realFrom root fuel' (next :: active) start t.parts with
            | .ok p => realFrom root (fuel' + 1) active p rest
            | .error p => .error (p ++ rest)
      | _ => realFrom root fuel active next rest
termination_by todo => (fuel, todo.length)

/-- Why a path has no real path. -/
inductive ResolveError where
  /-- It holds the character that no path may hold. -/
  | nulCharacter
  /-- Following its links does not end. -/
  | linkLoop
  deriving DecidableEq

/-- The path with every link replaced. -/
def realPath (fs : FileSystem) (p : Path) : Except ResolveError Path :=
  if p.hasNul then .error .nulCharacter
  else
    match realFrom fs.root (fs.root.links.length + 1) [] (fs.start p) p.parts with
    | .ok parts => .ok (Path.absolute parts)
    | .error parts =>
      match fs.walk true (Path.absolute (collapse parts)) with
      | .loop => .error .linkLoop
      | _ => .ok (Path.absolute (collapse parts))

/-- The position of the directory that a path leads to. -/
def directoryPosition? (fs : FileSystem) (p : Path) : Option (List String) :=
  match fs.walk true p with
  | .entry position e => if e.isDirectory then some position else none
  | _ => none

end FileSystem
end Exposure
