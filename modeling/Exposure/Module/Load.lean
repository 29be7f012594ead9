import Exposure.FileSystem.Resolve
import Exposure.Module.Execute

/-!
Loading modules from files. A name is looked for in the directories of the package before its last
dot, or in the search root; a directory with the file of a package is a package, then comes a file
with the name, and a directory alone is a package without a text. The packages on the way are loaded
first. A module is in the table while its text runs and leaves it again when the text fails; those
that it has loaded stay.
-/
namespace Exposure

namespace Module

/-- Where a module is found. -/
inductive Origin where
  | file (path : Path)
  | package (directory : Path)
  /-- A package of directories without a text of its own. -/
  | directories (paths : List Path)

/-- The file with the text of a package. -/
def packageFile : String := "__init__.py"

/-- Looks for a module in directories; those that only have a directory of the name are kept in
`found`. -/
def findIn (fs : FileSystem) (name : String) (found : List Path) : List Path → Option Origin
  | [] => if found.isEmpty then none else some (.directories found.reverse)
  | d :: ds =>
    let directory := d.child name
    let file := d.child (name ++ ".py")
    if name ≠ "" && fs.isFile (directory.child packageFile) then some (.package directory)
    else if fs.isFile file then some (.file file)
    else if name ≠ "" && fs.isDirectory directory then findIn fs name (directory :: found) ds
    else findIn fs name found ds

/-- The module behind an origin before its text runs, and the file with the text. -/
def ofOrigin (name : String) : Origin → Module × Option Path
  | .file path =>
    let package := match Text.cutLast '.' name.toList with
      | some (p, _) => String.ofList p
      | none => ""
    ({ name, package, names := standard package (some path) }, some path)
  | .package directory =>
    let file := directory.child packageFile
    ({ name, package := name, path := some [directory], names := standard name (some file)
          ++ [("__path__", .list [.text directory.toString])] }, some file)
  | .directories paths =>
    ({ name, package := name, path := some paths, names := standard name none
          ++ [("__path__", .unknown)] }, none)
where
  /-- The names that every module has. -/
  standard (package : String) (file : Option Path) : Names :=
    [("__name__", .text name), ("__doc__", .null), ("__package__", .text package),
      ("__loader__", .unknown), ("__spec__", .unknown)]
      ++ file.toList.map fun p => ("__file__", .text p.toString)

/-- Imports of features, which stand at the start of a text behind its documentation. -/
def isFeatureImport : Source.Stmt → Bool
  | .importFrom module _ level => module = "__future__" && level = 0
  | _ => false

/-- No import of features comes behind other statements. -/
def featuresFirst (body : List Source.Stmt) : Bool :=
  let body := if (Source.docOf? body).isSome then body.tail else body
  !(body.dropWhile isFeatureImport).any isFeatureImport

mutual

/-- Returns stand in functions and jumps in loops, and no function has two parameters of one
name. -/
def isPlaced (inFunction inLoop : Bool) : Source.Stmt → Bool
  | .return _ => inFunction
  | .jump _ => inLoop
  | .classDef _ _ _ body => arePlaced false false body
  | .functionDef _ _ _ parameters _ body =>
    let names := parameters.map (·.name)
    names.eraseDups.length = names.length && arePlaced true false body
  | .conditional branches otherwise =>
    branchesPlaced inFunction inLoop branches && arePlaced inFunction inLoop otherwise
  | .whileLoop _ body otherwise | .forLoop _ _ body otherwise =>
    arePlaced inFunction true body && arePlaced inFunction inLoop otherwise
  | .within _ body => arePlaced inFunction inLoop body
  | .attempt body handlers otherwise final =>
    arePlaced inFunction inLoop body && handlersPlaced inFunction inLoop handlers
      && arePlaced inFunction inLoop otherwise && arePlaced inFunction inLoop final
  | .choice bodies => bodiesPlaced inFunction inLoop bodies
  | _ => true

def arePlaced (inFunction inLoop : Bool) : List Source.Stmt → Bool
  | [] => true
  | s :: ss => isPlaced inFunction inLoop s && arePlaced inFunction inLoop ss

def branchesPlaced (inFunction inLoop : Bool) : List (Source.Expr × List Source.Stmt) → Bool
  | [] => true
  | (_, body) :: bs => arePlaced inFunction inLoop body && branchesPlaced inFunction inLoop bs

def handlersPlaced (inFunction inLoop : Bool) :
    List (Option Source.Expr × Option String × List Source.Stmt) → Bool
  | [] => true
  | (_, _, body) :: hs =>
    arePlaced inFunction inLoop body && handlersPlaced inFunction inLoop hs

def bodiesPlaced (inFunction inLoop : Bool) : List (List Source.Stmt) → Bool
  | [] => true
  | body :: bs => arePlaced inFunction inLoop body && bodiesPlaced inFunction inLoop bs

end

/-- The statements in the bytes of a file; a mark of the byte order is passed over. -/
def statements? (bytes : ByteArray) : Option (List Source.Stmt) := do
  let text ← String.fromUTF8? bytes
  let text := match text.toList with
    | '\ufeff' :: r => String.ofList r
    | _ => text
  let body ← Source.Parser.parse? text
  if featuresFirst body && arePlaced false false body then some body else none

end Module

/-- How deep loads and calls may be nested. -/
def callLimit : Nat := 1000

/-- Runs the text of a new module. -/
def runModule (fs : FileSystem) (s : Services) (index : Nat) (file : Path) : Eval Unit := do
  match Module.statements? ((fs.bytes? file).getD ByteArray.empty) with
  | none => throw .syntaxError
  | some body =>
    let f : Frame := { scope := index }
    let f ← match Source.docOf? body with
      | some doc => f.bind "__doc__" (.text doc)
      | none => pure f
    discard (Source.execAll s f body)

/-- Makes the module of a name from where it is found, and takes it out of the table again if its
text fails. -/
def makeModule (fs : FileSystem) (s : Services) (name : String) (origin : Module.Origin) :
    Eval Nat := do
  let (m, file) := Module.ofOrigin name origin
  let index := (← get).modules.size
  modify fun w => w.add m file
  match file with
  | none => return index
  | some path =>
    tryCatch (runModule fs s index path) fun r => do
      modify fun w => w.unload name
      throw r
    return index

/-- The package of a name and the last part of it. -/
def splitPackage (name : String) : Option String × String :=
  match Text.cutLast '.' name.toList with
  | some (p, l) => (if p.isEmpty then none else some (String.ofList p), String.ofList l)
  | none => (none, name)

/-- Loads the module of a name that is looked for in the given directories, or in those of its
package, which is loaded before. -/
def loadStep (fs : FileSystem) (directories : List Path) (s : Services) : Loader := fun name => do
  if let some l := Assoc.get? name (← get).loaded then return l.index
  match splitPackage name with
  | (none, last) =>
    match Module.findIn fs last [] directories with
    | some origin => makeModule fs s name origin
    | none => throw (.moduleNotFound name)
  | (some package, last) =>
    let parent ← s.load package
    -- the package may have loaded the module itself
    if let some l := Assoc.get? name (← get).loaded then return l.index
    let directories := ((← get).module? parent).bind Module.path
    match Module.findIn fs last [] (directories.getD []) with
    | some origin =>
      let index ← makeModule fs s name origin
      modify fun w => w.withNames parent (Assoc.put last (.module index))
      return index
    | none => throw (.moduleNotFound name)

/-- What is done for statements, with a bound for the nesting. -/
def services (fs : FileSystem) (directories : List Path) : Nat → Services
  | 0 => ⟨fun _ => throw .recursionError, fun _ _ => throw .recursionError⟩
  | limit + 1 =>
    let s := services fs directories limit
    ⟨loadStep fs directories s, Source.callFunction s⟩

/-- Loads the module of an absolute name. -/
def loadModule (fs : FileSystem) (searchRoot : Path) (name : String) : Eval Nat :=
  if name = "" then throw .valueError
  else if name.toList.head? = some '.' then throw .typeError
  else (services fs [searchRoot] callLimit).load name

/-- Runs the body of a function in a world, of which nothing is changed. Modules that it loads are
looked for in their packages alone. -/
def World.run (w : World) (fs : FileSystem := ⟨.directory [], []⟩) : Run := fun f given =>
  (((services fs [] callLimit).call f given).run.run w).1

end Exposure
