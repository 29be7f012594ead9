import Exposure.Module.World

/-!
Values of expressions. What serves the definition of classes is evaluated in full: names, parts of
modules and classes, data, types, decorators, calls of functions by position and exceptions. Of
everything else it is only known that it has a value.
-/
namespace Exposure

/-- Calls a function with values by position. -/
abbrev Caller := Function → List Value → Eval Value

namespace Value

def ofNumber : Source.Number → Value
  | .int n => int n
  | .float x => float x
  | .imaginary _ => unknown

def ofConstant : Source.Constant → Value
  | .null => null
  | .bool b => bool b
  | .ellipsis => ellipsis
  | .number n => ofNumber n
  | .text s => text s
  | .bytes s => bytes s

/-- The class derives from the class of all exceptions. -/
def isExceptionClass (c : Class) : Bool := c.derivesFrom (.known "builtins.BaseException")

/-- The text of an exception that was made from these values. -/
def exceptionText : List Value → String
  | [] => ""
  | [v] => v.toText
  | vs => (tuple vs).toText

/-- A member of a class, as the class hands it over. -/
def ofMember : Member → Value
  | .wrapped .static _ inner => member inner
  | .function f => member (.function f)
  | .native kind => member (.native kind)
  | _ => unknown

/-- A part of a class by its name. -/
def classPart (c : Class) (name : String) : Except Raised Value :=
  if c == Known.filterClass then
    match MethodFilter.ofName? name with
    | some f => .ok (filter f)
    | none => .error .attributeError
  else
    match c.lookup? name with
    | some m => .ok (ofMember m)
    | none =>
      if name = "register" && c.countsAbstract then .ok (tool (.register c.id))
      else if name = "__name__" then .ok (text c.name)
      else if name = "__qualname__" then .ok (text c.body.qualifier)
      else if name = "__module__" then .ok (text c.moduleName)
      else if name = "__doc__" then .ok (c.doc.elim null text)
      else
        let foreign (d : Class) : Bool := match d.id with
          | .known _ => !ClassId.foundations.contains d.id
          | .made _ => false
        if c.order.any foreign || isMagic name then .ok unknown else .error .attributeError

/-- A part of a value by its name. -/
def part (w : World) (v : Value) (name : String) : Except Raised Value :=
  match v with
  | module index =>
    match (w.module? index).bind fun m => Assoc.get? name m.names with
    | some v => .ok v
    | none => if name = "__dict__" ∨ name = "__class__" then .ok unknown else .error .attributeError
  | type c => classPart c name
  | null => if isMagic name then .ok unknown else .error .attributeError
  | _ => .ok unknown

/-- A member that a decorator is put around, if it can be. -/
def wrap (wrapper : Wrapper) (v : Value) : Value :=
  match v with
  | member m => member (.wrapped wrapper {} m)
  | unknown => member (.wrapped wrapper {} .value)
  | _ => member (.wrapped wrapper {} .value)

/-- A function with the mark of abstract ones; wrappers and data cannot carry it. -/
def markAbstract : Value → Except Raised Value
  | member (.function f) =>
    .ok (member (.function { f with marks := { f.marks with isAbstract := true } }))
  | type c => .ok (type c)
  | unknown => .ok unknown
  | _ => .error .attributeError

/-- A function or a wrapper with the mark of final ones; what cannot carry it stays as it is. -/
def markFinal : Value → Value
  | member (.function f) => member (.function { f with marks := { f.marks with isFinal := true } })
  | member (.wrapped .property m inner) => member (.wrapped .property m inner)
  | member (.wrapped k m inner) => member (.wrapped k { m with isFinal := true } inner)
  | v => v

/-- Declares that a class implements a marker, unless it derives from the marker anyway. -/
def register (marker : ClassId) (v : Value) : Eval Value := do
  match v with
  | type c =>
    unless c.derivesFrom marker do
      modify fun w => { w with registered := (marker, c.id) :: w.registered }
    return v
  | unknown => return v
  | _ => throw .typeError

/-- Binds a part of a value by its name, if it is one of a module. -/
def setPart (v : Value) (name : String) (p : Value) : Eval Unit :=
  match v with
  | module index => modify fun w => w.withNames index (Assoc.put name p)
  | _ => return

def callTool (t : Tool) (given : List Value) : Eval Value :=
  match t, given with
  | .abstractMethod, [v] => liftM (markAbstract v)
  | .final, [v] => return markFinal v
  | .register marker, [v] => register marker v
  | .getAttribute, [v, text name] => do liftM (v.part (← get) name)
  | .getAttribute, [v, text name, otherwise] => do
    match v.part (← get) name with
    | .ok p => return p
    | .error r => if r = .attributeError then return otherwise else throw r
  | .hasAttribute, [v, text name] => do
    match v.part (← get) name with
    | .ok unknown => return unknown
    | .ok _ => return bool true
    | .error r => if r = .attributeError then return bool false else throw r
  | .setAttribute, [v, text name, p] => do
    v.setPart name p
    return null
  | .getAttribute, _ :: unknown :: _ => return unknown
  | .hasAttribute, [_, unknown] => return unknown
  | .setAttribute, [_, unknown, _] => return null
  | _, _ => throw .typeError

/-- Calls a class. -/
def callClass (c : Class) (given : List Value) : Except Raised Value :=
  if isExceptionClass c then .ok (raised ⟨c.name, exceptionText given, c.order.map (·.id)⟩)
  else if c == Known.filterClass then
    match given with
    | [v] => v.toFilter.map filter
    | _ => .error .typeError
  else if c.isAbstract then .error .typeError
  else
    match c.id, given with
    | .known "builtins.staticmethod", [v] => .ok (wrap .static v)
    | .known "builtins.classmethod", [v] => .ok (wrap .classMethod v)
    | .known "builtins.property", v :: _ => .ok (wrap .property v)
    | .known "builtins.type", [null] => .ok (type .nothing)
    | .known "builtins.list", [] => .ok (list [])
    | .known "builtins.tuple", [] => .ok (tuple [])
    | .known "builtins.dict", [] => .ok (dict [])
    | .known "typing.TypeVar", text s :: _ => .ok (typeVariable s)
    | _, _ => .ok unknown

/-- Calls a value; of a function that is given values by name nothing is known but that it has a
result. -/
def call (caller : Caller) (callee : Value) (given : List Value) (byPosition : Bool) :
    Eval Value :=
  match callee with
  | tool t => callTool t given
  | type c => liftM (callClass c given)
  | member (.function f) =>
    if !byPosition then return unknown
    else if f.arity.accepts given.length then caller f given
    else throw .typeError
  | member (.native _) => return unknown
  | member (.wrapped .static _ _) => return unknown
  | generic _ _ => return unknown
  | unknown => return unknown
  | form _ => return unknown
  | applied _ _ => return unknown
  | _ => throw .typeError

def unary (op : Source.UnaryOperator) (v : Value) : Except Raised Value :=
  match op, v with
  | .not, v => .ok (bool !v.truthy)
  | .minus, int n => .ok (int (-n))
  | .minus, float (some x) => .ok (float (some { x with negative := !x.negative }))
  | .plus, int n => .ok (int n)
  | .plus, float x => .ok (float x)
  | .invert, int n => .ok (int (-n - 1))
  | .invert, filter f => .ok (filter f.complement)
  | _, text _ => .error .typeError
  | _, null => .error .typeError
  | _, list _ => .error .typeError
  | _, _ => .ok unknown

/-- The number that a truth value or a whole number is. -/
def toInt? : Value → Option Int
  | bool b => some (if b then 1 else 0)
  | int n => some n
  | _ => none

/-- Values that differ from all others of which the same holds, unless they are alike. -/
def isPlain : Value → Bool
  | null | ellipsis | bool _ | int _ | text _ | list _ | tuple _ | type _ | module _ => true
  | _ => false

mutual

/-- Whether two values are equal, as far as this can be told. -/
def equal? : Value → Value → Option Bool
  | null, null => some true
  | ellipsis, ellipsis => some true
  | text a, text b => some (a = b)
  | type c, type d => some (c == d)
  | module i, module j => some (i = j)
  | list as, list bs => allEqual? as bs
  | tuple as, tuple bs => allEqual? as bs
  | a, b =>
    match a.toInt?, b.toInt? with
    | some m, some n => some (m = n)
    | _, _ => if a.isPlain && b.isPlain then some false else none

def allEqual? : List Value → List Value → Option Bool
  | [], [] => some true
  | a :: as, b :: bs =>
    match equal? a b, allEqual? as bs with
    | some true, known => known
    | some false, _ => some false
    | none, known => if known = some false then known else none
  | _, _ => some false

end

/-- Whether two values are one and the same, as far as this can be told. -/
def identical? : Value → Value → Option Bool
  | list _, list _ | tuple _, tuple _ | text _, text _ | int _, int _ => none
  | bool a, bool b => some (a = b)
  | bool _, int _ | int _, bool _ => some false
  | null, b => if b.isUnknown then none else some (b.equal? null = some true)
  | a, null => if a.isUnknown then none else some false
  | a, b => equal? a b

/-- Whether a value is among others, as far as this can be told. -/
def among? (v : Value) (vs : List Value) : Option Bool :=
  if vs.any fun u => equal? v u = some true then some true
  else if vs.all fun u => equal? v u = some false then some false
  else none

/-- Whether a value is in another one, as far as this can be told. -/
def within? : Value → Value → Option Bool
  | text s, text t => some (Text.cutFirst s.toList t.toList).isSome
  | v, list vs | v, tuple vs | v, set vs => v.among? vs
  | v, dict entries => v.among? (entries.map (·.1))
  | _, _ => none

/-- What is known to hold, or not to. -/
def ofKnown : Option Bool → Value
  | some b => bool b
  | none => unknown

/-- The comparisons of numbers and texts by their order. -/
def ordered (op : String) (a b : Value) : Value :=
  let holds (less equal : Bool) : Bool :=
    match op with
    | "<" => less
    | "<=" => less || equal
    | ">" => !(less || equal)
    | _ => !less
  match a, b with
  | text s, text t => bool (holds (s < t) (s = t))
  | a, b =>
    match a.toInt?, b.toInt? with
    | some m, some n => bool (holds (m < n) (m = n))
    | _, _ => unknown

/-- An operator between two values, both of which count. -/
def binary (op : String) (a b : Value) : Except Raised Value :=
  match op, a, b with
  | "|", a, b => either a b
  | "&", filter f, filter g => .ok (filter (f.inter g))
  | "^", filter f, filter g => .ok (filter (f.exclusive g))
  | "+", int m, int n => .ok (int (m + n))
  | "-", int m, int n => .ok (int (m - n))
  | "*", int m, int n => .ok (int (m * n))
  | "+", text s, text t => .ok (text (s ++ t))
  | "+", list as, list bs => .ok (list (as ++ bs))
  | "+", tuple as, tuple bs => .ok (tuple (as ++ bs))
  | "is", a, b => .ok (ofKnown (identical? a b))
  | "is not", a, b => .ok (ofKnown ((identical? a b).map not))
  | "==", a, b => .ok (ofKnown (equal? a b))
  | "!=", a, b => .ok (ofKnown ((equal? a b).map not))
  | "in", a, b => .ok (ofKnown (within? a b))
  | "not in", a, b => .ok (ofKnown ((within? a b).map not))
  | op, a, b => .ok (if ["<", "<=", ">", ">="].contains op then ordered op a b else unknown)

/-- The items of a value that a list is made of. -/
def items : Value → List Value
  | list vs => vs
  | tuple vs => vs
  | set vs => vs
  | _ => []

end Value

namespace Source

/-- The values of a call are all given by position, and it is known how many there are. -/
def byPosition (arguments : List Expr) : Bool :=
  arguments.all fun e => match e with
    | .keyword _ _ | .starred _ | .doubleStarred _ => false
    | _ => true

mutual

/-- The value of an expression. -/
def Expr.eval (call : Caller) (f : Frame) : Expr → Eval Value
  | .name id => f.lookup id
  | .constant c => return .ofConstant c
  | .formatted values => do
    let _ ← evalAll call f values
    return .unknown
  | .attribute base name => do
    let v ← base.eval call f
    liftM (v.part (← get) (f.stored name))
  | .subscript base index => do
    let b ← base.eval call f
    let i ← index.eval call f
    liftM (b.withIndex i)
  | .slice _ => return .unknown
  | .call callee arguments => do
    let c ← callee.eval call f
    let given ← evalAll call f arguments
    c.call call given (byPosition arguments)
  | .unary op operand => do liftM ((← operand.eval call f).unary op)
  | .binary op left right => do
    let a ← left.eval call f
    if op = "and" && !a.truthy then return a
    if op = "or" && a.truthy then return a
    let b ← right.eval call f
    if op = "and" || op = "or" then return b
    liftM (a.binary op b)
  | .conditional test yes no => do
    if (← test.eval call f).truthy then yes.eval call f else no.eval call f
  | .lambda defaults _ => do
    let _ ← evalAll call f defaults
    return .member (.function { deferred := true })
  | .tuple items => return .tuple (← evalAll call f items)
  | .list items => return .list (← evalAll call f items)
  | .set items => return .set (← evalAll call f items)
  | .dict entries => return .dict (← evalEntries call f entries)
  | .comprehension _ _ => return .unknown
  | .await _ => return .unknown
  | .yield _ => return .unknown
  | .assignment _ value => value.eval call f
  | .starred value => value.eval call f
  | .doubleStarred value => value.eval call f
  | .keyword _ value => value.eval call f
  | .pair key _ => key.eval call f

/-- The values of expressions in a row; a starred one stands for its items. -/
def evalAll (call : Caller) (f : Frame) : List Expr → Eval (List Value)
  | [] => return []
  | .starred e :: es => do
    let v ← e.eval call f
    return v.items ++ (← evalAll call f es)
  | e :: es => do
    let v ← e.eval call f
    return v :: (← evalAll call f es)

/-- The entries of a dictionary; a key that comes again takes the last value. -/
def evalEntries (call : Caller) (f : Frame) : List Expr → Eval (List (Value × Value))
  | [] => return []
  | .pair key value :: es => do
    let k ← key.eval call f
    let v ← value.eval call f
    return (k, v) :: (← evalEntries call f es)
  | e :: es => do
    let _ ← e.eval call f
    evalEntries call f es

end

end Source
end Exposure
