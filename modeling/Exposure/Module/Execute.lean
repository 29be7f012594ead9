import Exposure.Module.Evaluate
import Exposure.Reflection
import Exposure.Source.Printer

/-!
Running statements. A statement may bind names where it runs or in a module, make classes and
functions, call functions and load other modules by the services that it is given, leave a loop or a
function, or raise an exception, for which it may have a handler itself.
-/
namespace Exposure

/-- Gives the module of a name, which is loaded first if it is not. -/
abbrev Loader := String → Eval Nat

/-- What statements have done for them. -/
structure Services where
  load : Loader
  call : Caller

/-- How a run goes on behind a statement. -/
inductive Flow where
  | next
  /-- Behind the loop around the statement. -/
  | leave
  /-- With the next round of this loop. -/
  | again
  /-- Where the function was called, with its result. -/
  | give (v : Value)

namespace Raised

def importError : Raised := { className := "ImportError" }

def syntaxError : Raised := { className := "SyntaxError" }

def recursionError : Raised := { className := "RecursionError" }

def assertionError : Raised := { className := "AssertionError" }

/-- The text is the name of the module that is not there. -/
def moduleNotFound (name : String) : Raised := { className := "ModuleNotFoundError", text := name }

def nothingToRaise : Raised :=
  { className := runtimeError, text := "No active exception to reraise" }

/-- The exception is one of a class. -/
def isOf (r : Raised) (c : Class) : Bool :=
  r.kinds.contains c.id
    || (Assoc.get? ("builtins." ++ r.className) Known.classTable).any (·.derivesFrom c.id)

/-- A handler with this value is for the exception; of what is unknown it may be one. -/
def fits (r : Raised) : Value → Bool
  | .type c => r.isOf c
  | .tuple vs => vs.any fun v => match v with
    | .type c => r.isOf c
    | _ => v.isUnknown
  | v => v.isUnknown

end Raised

namespace Value

/-- Raises an exception that a value is or is the class of. -/
def throwAsException {α : Type} (v : Value) : Eval α :=
  match v with
  | raised r => throw r
  | type c =>
    if isExceptionClass c then throw ⟨c.name, "", c.order.map (·.id)⟩ else throw .typeError
  | _ => throw .typeError

/-- The values that a loop over a value goes through, if they are known. -/
def rounds : Value → Except Raised (Option (List Value))
  | list vs | tuple vs | set vs => .ok (some vs)
  | text s => .ok (some (s.toList.map fun c => text (String.singleton c)))
  | dict entries => .ok (some (entries.map (·.1)))
  | null | ellipsis | bool _ | int _ | float _ | module _ | member _ => .error .typeError
  | _ => .ok none

/-- Known classes that no other class can have as a base. -/
def sealedClasses : List String :=
  ["builtins.bool", "builtins.range", "builtins.slice", "builtins.memoryview", "builtins.NoneType",
    "builtins.method_descriptor", "builtins.wrapper_descriptor", "typing.Generic",
    "types.GenericAlias"]

/-- The value is no base, which shows before the body of the definition runs: words of the language
of types and the class of filters refuse at once, data only next to other bases. -/
def refusesBody (isAlone : Bool) : Value → Bool
  | type c => c == Known.filterClass
  | generic _ _ => false
  | unknown => false
  | form _ => true
  | applied _ _ => true
  | _ => !isAlone

/-- The class that a value is as a base; one of which nothing is known is passed over. -/
def toBase (v : Value) : Except Raised (Option Class) :=
  match v with
  | type c => .ok (some c)
  | generic c _ => .ok (some c)
  | unknown => .ok none
  | _ => .error .typeError

/-- What a name in a class stands for, by the value that it was bound to. -/
def toMember : Value → Member
  | member m => m
  | type _ => .nestedClass
  | tool .getAttribute | tool .hasAttribute | tool .setAttribute => .native .function
  | _ => .value

/-- The names that a star takes from a module. -/
def starNames (names : Names) : List String :=
  match Assoc.get? "__all__" names with
  | some (list vs) => vs.map toText
  | some (tuple vs) => vs.map toText
  | some (text s) => s.toList.map fun c => String.singleton c
  | _ => (Assoc.keys names).filter fun n => n.toList.head? ≠ some '_'

end Value

namespace Module

/-- The name that a relative import means: as many dots less one lead out of the package. -/
def resolveImport (m : Module) (name : String) (level : Nat) : Except Raised String :=
  if level = 0 then .ok name
  else if m.package = "" then .error .importError
  else
    let parts := Text.splitString '.' m.package
    if parts.length < level then .error .importError
    else
      let base := Text.joinStrings "." (parts.take (parts.length + 1 - level))
      .ok (if name = "" then base else base ++ "." ++ name)

/-- Features that change how a module is read. -/
def features : List String := [
  "nested_scopes", "generators", "division", "absolute_import", "with_statement",
  "print_function", "unicode_literals", "barry_as_FLUFL", "generator_stop", "annotations"]

end Module

namespace Source

/-- The text of a string that stands alone at the start of a body. -/
def docOf? : List Stmt → Option String
  | .expr (.constant (.text s)) :: _ => some s
  | _ => none

/-- A part of a module, or else a loaded module whose name leads there. -/
def importedPart (index : Nat) (name : String) : Eval Value := do
  let w ← get
  match (w.module? index) with
  | none => throw .importError
  | some m =>
    match Assoc.get? name m.names with
    | some v => return v
    | none => match Assoc.get? (m.name ++ "." ++ name) w.loaded with
      | some l => return .module l.index
      | none => throw .importError

/-- Loads the module of a package that a name may mean, unless the package has the name. -/
def loadPart (load : Loader) (index : Nat) (name : String) : Eval Unit := do
  match (← get).module? index with
  | none => return
  | some m =>
    if m.path.isNone || (Assoc.get? name m.names).isSome then return
    let full := m.name ++ "." ++ name
    tryCatch (discard (load full)) fun r =>
      if r = .moduleNotFound full then return else throw r

/-- Binds a module that an import names, or with a second name its last part. -/
def runImport (load : Loader) (f : Frame) (n : ImportedName) : Eval Frame := do
  let _ ← load n.name
  let parts := Text.splitString '.' n.name
  let top ← load (parts.headD "")
  match n.boundAs with
  | none => f.bind (parts.headD "") (.module top)
  | some a =>
    let step (v : Value) (part : String) : Eval Value := match v with
      | .module i => importedPart i part
      | _ => return .unknown
    f.bind a (← parts.tail.foldlM step (.module top))

/-- Binds the names that an import takes from a module. -/
def runImportFrom (load : Loader) (f : Frame) (module : String) (names : List ImportedName)
    (level : Nat) : Eval Frame := do
  let importing := ((← get).module? f.scope).getD default
  let index ← load (← liftM (importing.resolveImport module level))
  let wanted ←
    if names.any (·.name = "*") then do
      let there := (((← get).module? index).map Module.names).getD []
      pure ((Value.starNames there).map fun n => { name := n : ImportedName })
    else pure names
  wanted.forM fun n => loadPart load index n.name
  wanted.foldlM (fun f n => do f.bind (n.boundAs.getD n.name) (← importedPart index n.name)) f

/-- Features stand at the start of a module; type hints as text are one of them. -/
def runFeatures (load : Loader) (f : Frame) (names : List ImportedName) : Eval Frame := do
  if names.any fun n => !Module.features.contains n.name then throw .syntaxError
  let f := { f with hintsAsText := f.hintsAsText || names.any (·.name = "annotations") }
  runImportFrom load f "__future__" names 0

/-- The values for targets in a row, one of which may take any number of them. -/
def shareOut (targets : List Expr) (vs : List Value) : Option (List Value) :=
  let takesRest : Expr → Bool
    | .starred _ => true
    | _ => false
  match targets.findIdx? takesRest with
  | none => if vs.length = targets.length then some vs else none
  | some i =>
    let behind := targets.length - i - 1
    if vs.length < i + behind then none
    else
      let rest := (vs.drop i).take (vs.length - i - behind)
      some (vs.take i ++ .list rest :: vs.drop (vs.length - behind))

mutual

/-- Binds a target to a value. An attribute is bound if it is one of a module. -/
def bindTarget (call : Caller) (f : Frame) (v : Value) : Expr → Eval Frame
  | .name id => f.bind id v
  | .tuple items | .list items => do
    match ← liftM v.rounds with
    | none => bindAll call f (items.map fun _ => .unknown) items
    | some vs =>
      match shareOut items vs with
      | some vs => bindAll call f vs items
      | none => throw .valueError
  | .starred target => bindTarget call f v target
  | .attribute base name => do
    (← base.eval call f).setPart (f.stored name) v
    return f
  | .subscript base index => do
    let _ ← base.eval call f
    let _ ← index.eval call f
    return f
  | _ => return f

def bindAll (call : Caller) (f : Frame) : List Value → List Expr → Eval Frame
  | v :: vs, t :: ts => do bindAll call (← bindTarget call f v t) vs ts
  | _, _ => return f

end

/-- Takes a name away that a target is, or an attribute of a module. -/
def unbindTarget (call : Caller) (f : Frame) : Expr → Eval Frame
  | .name id => f.unbind id
  | .attribute base name => do
    match ← base.eval call f with
    | .module index =>
      let name := f.stored name
      let names := (((← get).module? index).map Module.names).getD []
      if (Assoc.get? name names).isNone then throw .attributeError
      modify fun w => w.withNames index fun ns => ns.filter (·.1 ≠ name)
      return f
    | _ => return f
  | _ => return f

/-- The type that a hint stands for, as text. -/
def hintText (call : Caller) (f : Frame) (hint : Expr) : Eval String :=
  if f.hintsAsText then return String.ofList (hint.text 1)
  else do return (← hint.eval call f).typeText

/-- A value behind its decorators, the last of which is applied first. -/
def decorate (call : Caller) (decorators : List Value) (v : Value) : Eval Value :=
  decorators.reverse.foldlM (fun v d => d.call call [v] true) v

/-- The function that a definition makes, before its decorators. -/
def makeFunction (call : Caller) (f : Frame) (deferred : Bool) (name : String)
    (parameters : List Parameter) (returns : Option Expr) (body : List Stmt) : Eval Value := do
  parameters.forM fun p => p.default.forM fun e => discard (e.eval call f)
  parameters.forM fun p => p.hint.forM fun e => discard (hintText call f e)
  let returnType ← returns.mapM (hintText call f)
  let namesWhere (p : Parameter → Bool) : List String :=
    (parameters.filter p).map fun q => f.stored q.name
  return .member (.function {
    doc := docOf? body, returnType, arity := .ofParameters parameters
    parameters := namesWhere (·.role = .positional), others := namesWhere (·.role ≠ .positional)
    place := f.inside f.className (name ++ ".<locals>."), deferred, body })

/-- Tells a class's nearest ancestor that wants to know of its new descendants. -/
def tellAncestor (call : Caller) (c : Class) : Eval Unit :=
  match c.order.tail.findSome? fun d => Assoc.get? "__init_subclass__" d.members with
  | some m => discard (m.callOf call c)
  | none => return

/-- The class that a definition makes from the names of its body, before its decorators. -/
def makeClass (call : Caller) (f : Frame) (name : String) (bases : List Class) (names : Names) :
    Eval Value := do
  if bases.any fun b => Value.sealedClasses.any fun n => b.id == .known n then throw .typeError
  let w ← get
  let body : ClassBody := {
    id := .made w.serial, name
    moduleName := (names.findSome? fun n => match n with
      | ("__module__", .text s) => some s
      | _ => none).getD ""
    qualifier := f.qualifier ++ name
    doc := match Assoc.get? "__doc__" names with
      | some (.text s) => some s
      | _ => none
    members := names.map fun n => (n.1, n.2.toMember) }
  match Class.define body bases with
  | .error _ => throw .typeError
  | .ok c =>
    set { w with serial := w.serial + 1 }
    tellAncestor call c
    return .type c

/-- Where the body of a class runs. -/
def classFrame (f : Frame) (name : String) (body : List Stmt) : Eval Frame := do
  let moduleName := (f.find? (← get) "__name__").getD (.text "")
  let names : Names := [("__module__", moduleName), ("__qualname__", .text (f.qualifier ++ name))]
  let doc : Names := (docOf? body).toList.map fun d => ("__doc__", .text d)
  return { toPlace := f.inside (some name) (name ++ "."), locals := some (names ++ doc)
           handled := f.handled }

/-- The rounds of a loop over values, up to the first that leaves it. -/
def forRounds (round : Frame → Value → Eval (Frame × Flow)) :
    Frame → List Value → Eval (Frame × Flow)
  | f, [] => return (f, .next)
  | f, v :: vs => do
    match ← round f v with
    | (f, .next) => forRounds round f vs
    | (f, .again) => forRounds round f vs
    | done => return done

/-- The rounds of a loop, up to the first that there is none or that leaves it; no more rounds are
followed than the number says. -/
def whileRounds (round : Frame → Eval (Option (Frame × Flow))) : Nat → Frame → Eval (Frame × Flow)
  | 0, _ => throw .recursionError
  | n + 1, f => do
    match ← round f with
    | none => return (f, .next)
    | some (f, .next) => whileRounds round n f
    | some (f, .again) => whileRounds round n f
    | some done => return done

/-- How many rounds of a loop are followed. -/
def roundLimit : Nat := 100000

/-- What is done behind a loop that has not been left. -/
def afterLoop (otherwise : Frame → Eval (Frame × Flow)) : Frame × Flow → Eval (Frame × Flow)
  | (f, .next) => otherwise f
  | (f, .leave) => return (f, .next)
  | done => return done

/-- The outcome of work, be it an exception. -/
def outcomeOf {α : Type} (x : Eval α) : Eval (Except Raised α) :=
  tryCatch (do return .ok (← x)) fun r => return .error r

/-- Deals with an exception, which may have a name while this is done. -/
def handle (run : Frame → Eval (Frame × Flow)) (f : Frame) (r : Raised) (bound : Option String) :
    Eval (Frame × Flow) := do
  let inner := { f with handled := some r }
  match bound with
  | some name =>
    let (g, flow) ← run (← inner.bind name (.raised r))
    return ({ ← (← g.bind name .null).unbind name with handled := f.handled }, flow)
  | none =>
    let (g, flow) ← run inner
    return ({ g with handled := f.handled }, flow)

/-- What is done at last, whether there has been an exception or not. -/
def atLast (final : Frame → Eval (Frame × Flow)) (f : Frame) :
    Except Raised (Frame × Flow) → Eval (Frame × Flow)
  | .ok (f, flow) => do
    match ← final f with
    | (f, .next) => return (f, flow)
    | done => return done
  | .error r => do
    match ← final f with
    | (_, .next) => throw r
    | done => return done

mutual

/-- Runs one statement; the frame that is left holds the names that it has bound. -/
def Stmt.exec (s : Services) (f : Frame) : Stmt → Eval (Frame × Flow)
  | .expr e => do
    let _ ← e.eval s.call f
    return (f, .next)
  | .assign targets value => do
    let v ← value.eval s.call f
    return (← targets.foldlM (fun f t => bindTarget s.call f v t) f, .next)
  | .augmented target op value => do
    let old ← target.eval s.call f
    let v ← value.eval s.call f
    return (← bindTarget s.call f (← liftM (old.binary (op.dropEnd 1).toString v)) target, .next)
  | .annotated target hint value => do
    let f ← match value with
      | some e => do bindTarget s.call f (← e.eval s.call f) target
      | none => pure f
    unless f.isFunction do
      let _ ← hintText s.call f hint
    return (f, .next)
  | .pass => return (f, .next)
  | .jump leaves => return (f, if leaves then .leave else .again)
  | .return none => return (f, .give .null)
  | .return (some e) => do return (f, .give (← e.eval s.call f))
  | .raise values => do
    match ← evalAll s.call f values with
    | [] => throw (f.handled.getD .nothingToRaise)
    | v :: _ => v.throwAsException
  | .delete targets => do return (← targets.foldlM (unbindTarget s.call) f, .next)
  | .assert values => do
    match values with
    | test :: _ =>
      if (← test.eval s.call f).truthy then return (f, .next) else throw .assertionError
    | [] => return (f, .next)
  | .scope isGlobal names =>
    let globals := if isGlobal then names.map f.stored ++ f.globals else f.globals
    return ({ f with globals }, .next)
  | .import names => do return (← names.foldlM (runImport s.load) f, .next)
  | .importFrom module names level => do
    if module = "__future__" ∧ level = 0 then return (← runFeatures s.load f names, .next)
    else return (← runImportFrom s.load f module names level, .next)
  | .classDef decorators name arguments body => do
    let ds ← evalAll s.call f decorators
    let positional := arguments.filter fun e => match e with
      | .keyword _ _ => false
      | .doubleStarred _ => false
      | _ => true
    let given ← evalAll s.call f positional
    if given.any (Value.refusesBody (given.length = 1)) then throw .typeError
    let (inner, _) ← execAll s (← classFrame f name body) body
    let bases := (← liftM (given.mapM Value.toBase)).filterMap fun b => b
    let c ← makeClass s.call f name bases (inner.locals.getD [])
    return (← f.bind name (← decorate s.call ds c), .next)
  | .functionDef deferred decorators name parameters returns body => do
    let ds ← evalAll s.call f decorators
    let v ← makeFunction s.call f deferred name parameters returns body
    return (← f.bind name (← decorate s.call ds v), .next)
  | .conditional branches otherwise => do
    match ← execBranches s f branches with
    | some done => return done
    | none => execAll s f otherwise
  | .whileLoop test body otherwise => do
    let round (f : Frame) : Eval (Option (Frame × Flow)) := do
      match ← test.eval s.call f with
      | .unknown =>
        -- nobody knows when this ends, so one round stands for all
        match ← execAll s f body with
        | (f, .give v) => return some (f, .give v)
        | (f, _) => return some (f, .leave)
      | v => if v.truthy then return some (← execAll s f body) else return none
    afterLoop (fun f => execAll s f otherwise) (← whileRounds round roundLimit f)
  | .forLoop target values body otherwise => do
    let vs := (← liftM (← values.eval s.call f).rounds).getD [.unknown]
    let round (f : Frame) (v : Value) : Eval (Frame × Flow) := do
      execAll s (← bindTarget s.call f v target) body
    afterLoop (fun f => execAll s f otherwise) (← forRounds round f vs)
  | .within items body => do
    let f ← items.foldlM (fun f i => do
      let _ ← i.1.eval s.call f
      match i.2 with
      | some target => bindTarget s.call f .unknown target
      | none => return f) f
    execAll s f body
  | .attempt body handlers otherwise final => do
    let outcome ← match ← outcomeOf (execAll s f body) with
      | .ok (f, .next) => outcomeOf (execAll s f otherwise)
      | .ok done => pure (.ok done)
      | .error r => outcomeOf (execHandlers s f r handlers)
    atLast (fun f => execAll s f final) f outcome
  | .choice bodies => execFirst s f bodies

/-- Runs statements in a row, up to the first that does not go on with the next. -/
def execAll (s : Services) (f : Frame) : List Stmt → Eval (Frame × Flow)
  | [] => return (f, .next)
  | stmt :: stmts => do
    match ← stmt.exec s f with
    | (f, .next) => execAll s f stmts
    | done => return done

/-- Runs the first branch whose test holds. -/
def execBranches (s : Services) (f : Frame) :
    List (Expr × List Stmt) → Eval (Option (Frame × Flow))
  | [] => return none
  | (test, body) :: bs => do
    if (← test.eval s.call f).truthy then return some (← execAll s f body)
    else execBranches s f bs

/-- Runs the first handler that is for the exception; without any it goes on. -/
def execHandlers (s : Services) (f : Frame) (r : Raised) :
    List (Option Expr × Option String × List Stmt) → Eval (Frame × Flow)
  | [] => throw r
  | (kind, bound, body) :: hs => do
    let fits ← match kind with
      | some e => pure (r.fits (← e.eval s.call f))
      | none => pure true
    if fits then handle (fun f => execAll s f body) f r bound
    else execHandlers s f r hs

/-- Runs the first of several bodies. -/
def execFirst (s : Services) (f : Frame) : List (List Stmt) → Eval (Frame × Flow)
  | [] => return (f, .next)
  | body :: _ => execAll s f body

end

/-- The names that a function has when its body begins to run: its parameters, with values as far as
they are given by position. -/
def givenNames (f : Function) (given : List Value) : Names :=
  f.parameters.zip (given ++ List.replicate (f.parameters.length - given.length) .unknown)
    ++ f.others.map fun n => (n, .unknown)

/-- Runs the body of a function. -/
def callFunction (s : Services) (f : Function) (given : List Value) : Eval Value := do
  if f.deferred then return .unknown
  let frame : Frame :=
    { toPlace := f.place, isFunction := true, locals := some (givenNames f given) }
  match ← execAll s frame f.body with
  | (_, .give v) => return v
  | _ => return .null

end Source

end Exposure
