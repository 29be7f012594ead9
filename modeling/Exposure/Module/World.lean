import Exposure.FileSystem.Path
import Exposure.Module.KnownTable
import Exposure.TypeText

/-!
The modules that have been made, with the names in each, and the table of those that are loaded. A
module stays when it leaves the table, since functions go on seeing its names. What is there before
any source text is read are the known modules, the package with the markers among them.

A piece of source text runs in the body of a module, of a class or of a function. A class body and a
function have names of their own, which go before those of the module; those of the module go before
the names that every module sees.
-/
namespace Exposure

/-- Names with what they stand for, in the order in which they were bound. -/
abbrev Names := List (String × Value)

structure Module where
  name : String
  /-- The package that relative imports start from. -/
  package : String := ""
  /-- The directories with the modules of a package. -/
  path : Option (List Path) := none
  names : Names := []
  deriving Inhabited

/-- A loaded module: its place among those made, and the file that its text came from. -/
structure Loaded where
  index : Nat
  file : Option Path := none
  deriving DecidableEq, Inhabited

structure World where
  /-- All modules ever made. -/
  modules : Array Module := #[]
  /-- The loaded ones by name. -/
  loaded : List (String × Loaded) := []
  /-- Names that every module sees. -/
  builtins : Names := []
  /-- The number of classes that definitions have made. -/
  serial : Nat := 0
  registered : Class.Registry := []
  deriving Inhabited

/-- Work in a world; what was done before an exception stays. -/
abbrev Eval := ExceptT Raised (StateM World)

namespace World

def module? (w : World) (index : Nat) : Option Module := w.modules[index]?

/-- Changes the names of a module. -/
def withNames (w : World) (index : Nat) (change : Names → Names) : World :=
  { w with modules := w.modules.modify index fun m => { m with names := change m.names } }

/-- Adds a module to those made and to those loaded. -/
def add (w : World) (m : Module) (file : Option Path) : World :=
  { w with
    modules := w.modules.push m
    loaded := Assoc.put m.name ⟨w.modules.size, file⟩ w.loaded }

/-- Takes a module out of the table. -/
def unload (w : World) (name : String) : World :=
  { w with loaded := w.loaded.filter (·.1 ≠ name) }

/-- What a name stands for in a loaded module. -/
def lookup? (w : World) (moduleName name : String) : Option Value := do
  let loaded ← Assoc.get? moduleName w.loaded
  Assoc.get? name (← w.module? loaded.index).names

/-- The class that a name stands for in a loaded module. -/
def class? (w : World) (moduleName name : String) : Option Class :=
  match w.lookup? moduleName name with
  | some (.type c) => some c
  | _ => none

end World

namespace Known

/-- The known classes by qualified name. -/
def classTable : List (String × Class) :=
  classes.foldl (fun t (moduleName, name, bases) =>
    let bases := bases.filterMap fun b => Assoc.get? b t
    t ++ [(moduleName ++ "." ++ name, .ofKnown moduleName name bases)])
    [("builtins.object", .root)]

/-- The class of method filters. -/
def filterClass : Class := .ofKnown Class.capabilities "MethodFilter" [.root]

/-- Words of the language of types that are neither classes nor functions. -/
def forms : List String :=
  (Value.arities.map (·.1) ++ Value.bareWords).eraseDups
    ++ ["ByteString", "Callable", "Hashable", "LiteralString", "Never", "NoReturn", "Self", "Sized",
      "Tuple", "TypeAlias"]

/-- Names with a meaning that their module's other names do not have. -/
def specialValues : List (String × String × Value) := [
  ("abc", "abstractmethod", .tool .abstractMethod), ("typing", "final", .tool .final),
  ("typing", "TYPE_CHECKING", .bool false), ("typing", "AnyStr", .typeVariable "AnyStr"),
  ("typing", "T", .typeVariable "T"), ("typing", "KT", .typeVariable "KT"),
  ("typing", "VT", .typeVariable "VT"), ("builtins", "getattr", .tool .getAttribute),
  ("builtins", "hasattr", .tool .hasAttribute), ("builtins", "setattr", .tool .setAttribute)]

/-- What a name of a known module stands for if it is no class and no module. -/
def valueOf (moduleName name : String) : Value :=
  match specialValues.find? fun s => s.1 = moduleName ∧ s.2.1 = name with
  | some s => s.2.2
  | none => if moduleName = "builtins" then .member (.native .function) else .unknown

/-- The names of a known module, its modules apart. -/
def namesOf (table : List (String × Class)) (m : ModuleNames) : Names :=
  let class? (name qualifiedName : String) : Option (String × Value) :=
    (Assoc.get? qualifiedName table).map fun c => (name, .type c)
  m.classes.filterMap (fun n => class? n (m.name ++ "." ++ n))
    ++ m.renamed.filterMap (fun r => class? r.1 r.2)
    ++ m.values.map fun n => (n, valueOf m.name n)

/-- The names of a module with the list of those that a star takes, which are all but the hidden
ones. -/
def withStarList (hidden : List String) (names : Names) : Names :=
  if hidden.isEmpty then names
  else
    let listed := (Assoc.keys names).filter fun n => !hidden.contains n
    names ++ [("__all__", .list (listed.map .text))]

/-- The package with the markers, as a module. -/
def contract : Module where
  name := "exposed_symbols.contract"
  package := "exposed_symbols.contract"
  path := some []
  names := withStarList ["artifacts", "capabilities"] [
    ("ExposeClass", .type .exposed), ("ExposeClassMethods", .type .methodsExposed),
    ("MethodFilter", .type filterClass),
    ("ArtifactSpec", .type (.ofKnown "exposed_symbols.contract.artifacts" "ArtifactSpec" [.root])),
    ("artifacts", .unknown), ("ARTIFACT_SPECS", .unknown), ("BUCKET_KEY", .text "#"),
    ("EXPOSED_SYMBOLS_JSON", .text "exposed_symbols.json"), ("ValidationMessage", .unknown),
    ("ValidationResult", .unknown), ("validate_artifacts", .unknown)]

/-- The module in which the markers are defined. -/
def capabilities : Module where
  name := Class.capabilities
  package := "exposed_symbols.contract"
  names := withStarList ["ABC", "Flag", "TYPE_CHECKING", "abstractmethod", "annotations"] [
    ("ABC", .type .abstractBase), ("ExposeClass", .type .exposed),
    ("ExposeClassMethods", .type .methodsExposed), ("MethodFilter", .type filterClass),
    ("abstractmethod", .tool .abstractMethod), ("MODIFIER_FILTERS", .filter .modifiers),
    ("CAPABILITY_MARKERS", .tuple [.type .exposed, .type .methodsExposed, .type .abstractBase]),
    ("Flag", .unknown), ("TYPE_CHECKING", .bool false), ("annotations", .unknown)]

/-- Modules whose names stand for others. -/
def links : List (String × String × String) :=
  modules.flatMap (fun m => m.modules.map fun s => (m.name, s.1, s.2))
    ++ [("exposed_symbols", "contract", "exposed_symbols.contract"),
      ("exposed_symbols.contract", "capabilities", Class.capabilities)]

/-- The modules that are there from the start. -/
def firstModules : List Module :=
  let table := classTable
  let words : Names := forms.map fun n => (n, .form n)
  contract :: capabilities
    :: { name := "exposed_symbols", package := "exposed_symbols", path := some [] }
    :: modules.map fun m =>
      let names := namesOf table m
      let hasParts := modules.any fun o => (m.name ++ ".").toList.isPrefixOf o.name.toList
      { name := m.name, package := m.name, path := if hasParts then some [] else none
        names := withStarList m.hidden (if m.name = "typing" then names ++ words else names) }

/-- The world before any source text is read. -/
def world : World :=
  let w : World := firstModules.foldl (fun w m => World.add w m none) {}
  let w := links.foldl (fun w (owner, name, target) =>
    match Assoc.get? owner w.loaded, Assoc.get? target w.loaded with
    | some o, some t => w.withNames o.index (Assoc.put name (.module t.index))
    | _, _ => w) w
  let builtins := ((Assoc.get? "builtins" w.loaded).bind (w.module? ·.index)).elim []
    Module.names
  let systemPath := (Assoc.get? "posixpath" w.loaded).toList.map fun l => ("os.path", l)
  { w with builtins, loaded := w.loaded ++ systemPath }

end Known

structure Frame extends Place where
  /-- The text is the body of a function. -/
  isFunction : Bool := false
  /-- The names of a class body or a function; a module has no others than its own. -/
  locals : Option Names := none
  /-- Names that stand for those of the module all the same. -/
  globals : List String := []
  /-- The exception that the text deals with. -/
  handled : Option Raised := none
  deriving Inhabited

namespace Frame

/-- The name under which a written name is stored. -/
def stored (f : Frame) (name : String) : String :=
  match f.className with
  | some c => storedName c name
  | none => name

/-- The names among which a name is bound, if these are not the names of the module. -/
def namesFor (f : Frame) (name : String) : Option Names :=
  if f.globals.contains name then none else f.locals

/-- What a name stands for. -/
def find? (f : Frame) (w : World) (name : String) : Option Value :=
  let name := f.stored name
  (((f.namesFor name).bind (Assoc.get? name)).or
    ((w.module? f.scope).bind fun m => Assoc.get? name m.names)).or (Assoc.get? name w.builtins)

/-- What a name stands for where the text runs; inside a function it may be a name of this. -/
def lookup (f : Frame) (name : String) : Eval Value := do
  match f.find? (← get) name with
  | some v => return v
  | none => if f.enclosed then return .unknown else throw .nameError

/-- Binds a name where the text runs. -/
def bind (f : Frame) (name : String) (v : Value) : Eval Frame := do
  let name := f.stored name
  match f.namesFor name with
  | some ns => return { f with locals := some (Assoc.put name v ns) }
  | none =>
    modify fun w => w.withNames f.scope (Assoc.put name v)
    return f

/-- Takes a name away where the text runs. -/
def unbind (f : Frame) (name : String) : Eval Frame := do
  let name := f.stored name
  let without (ns : Names) : Names := ns.filter (·.1 ≠ name)
  match f.namesFor name with
  | some ns =>
    if (Assoc.get? name ns).isNone then throw .nameError
    return { f with locals := some (without ns) }
  | none =>
    let ns := (((← get).module? f.scope).map Module.names).getD []
    if (Assoc.get? name ns).isNone then throw .nameError
    modify fun w => w.withNames f.scope without
    return f

/-- Where a text inside this one stands, in a class of the name or in none. -/
def inside (f : Frame) (className : Option String) (qualifier : String) : Place where
  scope := f.scope
  className
  qualifier := f.qualifier ++ qualifier
  hintsAsText := f.hintsAsText
  enclosed := f.enclosed || f.isFunction

end Frame
end Exposure
