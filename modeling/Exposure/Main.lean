import Exposure.CommandLine.Response

/-!
The program: it reads the directories that the command line names, carries the command line out on
what it has read, and writes back the files that have changed.
-/
namespace Exposure.CommandLine

/-- Deepest nesting of directories that is read. -/
def depthLimit : Nat := 256

/-- Reads what a path of the machine holds. A link has its real path as its target; what is neither
a file nor a directory nor a link is left out. -/
def readEntry : Nat → String → IO (Option Entry)
  | 0, _ => return none
  | depth + 1, path => do
    let mut children := []
    for e in ← (← IO.FS.realPath path).readDir do
      let inner := path ++ "/" ++ e.fileName
      match (← e.path.symlinkMetadata).type with
      | .dir =>
        if let some entry ← readEntry depth inner then children := (e.fileName, entry) :: children
      | .file => children := (e.fileName, .file (← IO.FS.readBinFile inner)) :: children
      | .symlink =>
        let target ← try pure (← IO.FS.realPath inner).toString catch _ => pure ""
        children := (e.fileName, .link target) :: children
      | .other => pure ()
    return some (.directory children)

/-- The real path of something that is there, and any other text as it is. -/
def realText (text : String) : IO String :=
  try return (← IO.FS.realPath text).toString catch _ => return text

/-- The command with the directory that it names changed. -/
def Command.withDirectory (change : String → IO String) : Command → IO Command
  | .generate outDir => return .generate (← outDir.mapM change)
  | .query pattern given methods ancestors =>
    return .query pattern (← given.mapM change) methods ancestors
  | .validate given => return .validate (← given.mapM change)
  | .verify given => return .verify (← given.mapM change)

/-- Adds a directory of the machine to what has been read, if it can be read. -/
def readDirectory (fs : FileSystem) (path : String) : IO FileSystem := do
  let position := fs.start (Path.ofString path) ++ (Path.ofString path).parts
  match ← try readEntry depthLimit path catch _ => pure none with
  | some entry =>
    let (ready, _) := fs.makeDirectories (Path.absolute position)
    return { ready with root := Entry.put entry position ready.root }
  | none => return fs

/-- Writes a file in one step. -/
def replaceFile (path : String) (bytes : ByteArray) : IO Unit := do
  let temporary := path ++ ".tmp"
  IO.FS.writeBinFile temporary bytes
  IO.FS.rename temporary path

/-- Writes back the directories and files that have not been there in this form. -/
def writeChanges (before after : FileSystem) : IO Unit :=
  (after.root.descendants []).forM fun (position, entry) => do
    let path := (Path.absolute position).toString
    match entry, before.root.at? position with
    | .directory _, some (.directory _) => pure ()
    | .directory _, _ => IO.FS.createDirAll path
    | .file bytes, some (.file old) => if bytes != old then replaceFile path bytes
    | .file bytes, _ => replaceFile path bytes
    | .link _, _ => pure ()

def usageText : String :=
  "usage: expose [-h] [-v | -q] \x7bgenerate,query,validate,verify\x7d ...\n"

/-- Where the program runs. -/
def surroundings : IO Surroundings := do
  let home ← IO.getEnv "HOME"
  return { homeOf := fun user => if user = "" then home else none
           scratch := Path.absolute [".expose-scratch"] }

/-- Carries out a command line on the machine and gives the exit code. -/
def perform (i : Invocation) : IO UInt32 := do
  let i := { i with root := ← realText i.root, command := ← i.command.withDirectory realText }
  let empty : FileSystem :=
    { root := .directory [], workingDirectory := (Path.ofString (← IO.currentDir).toString).parts }
  let before ← (i.root :: i.command.directory?.toList).foldlM readDirectory empty
  match i.run (← surroundings) before with
  | .error _ =>
    IO.eprintln "expose: the command cannot be carried out"
    return 1
  | .ok r =>
    r.logs.forM fun l => IO.eprintln l.text
    IO.eprint r.errors
    IO.print r.output
    writeChanges before r.fileSystem
    return r.exitCode

/-- Carries out the words of a command line, unless they stop it. -/
def performTexts (texts : List String) : IO UInt32 := do
  match Invocation.ofTexts texts with
  | .ok i => perform i
  | .error .help =>
    IO.print usageText
    return 0
  | .error .usage =>
    IO.eprint usageText
    return 2

end Exposure.CommandLine

/-- Carries out the command line of the program. -/
def main (texts : List String) : IO UInt32 :=
  Exposure.CommandLine.performTexts texts
