import Exposure.Number.Double

/-!
The words of a source text and the syntax of a module. Words are names, keywords, numbers, strings
and symbols, with the line ends and the changes of indentation that have a meaning. Of
comprehensions the parts are kept, of the patterns in a choice nothing.
-/
namespace Exposure.Source

inductive Number where
  | int (n : Nat)
  /-- None for a number beyond the largest one. -/
  | float (x : Option Double)
  | imaginary (x : Option Double)
  deriving DecidableEq

/-- How a string is written. -/
structure StringForm where
  raw : Bool := false
  bytes : Bool := false
  /-- Expressions stand in the text, between braces. -/
  formatted : Bool := false
  deriving DecidableEq

inductive Token where
  | name (id : String)
  | keyword (word : String)
  | number (value : Number)
  /-- A string as it is written between its quotes. -/
  | string (form : StringForm) (body : List Char)
  | symbol (text : String)
  | newline
  | indent
  | dedent
  deriving DecidableEq

/-- Words that are never names. -/
def keywords : List String := [
  "False", "None", "True", "and", "as", "assert", "async", "await", "break", "class", "continue",
  "def", "del", "elif", "else", "except", "finally", "for", "from", "global", "if", "import", "in",
  "is", "lambda", "nonlocal", "not", "or", "pass", "raise", "return", "try", "while", "with",
  "yield"]

/-- Symbols; one that another begins with comes after it. -/
def symbols : List String := [
  "**=", "//=", "<<=", ">>=", "...", "!=", "%=", "&=", "*=", "**", "+=", "-=", "->", "/=", "//",
  ":=", "<<", "<=", "==", ">=", ">>", "@=", "^=", "|=", "%", "&", "(", ")", "*", "+", ",", "-",
  ".", "/", ":", ";", "<", "=", ">", "@", "[", "]", "^", "\x7b", "|", "\x7d", "~"]

inductive Constant where
  | null
  | bool (b : Bool)
  | ellipsis
  | number (n : Number)
  | text (s : String)
  | bytes (s : String)
  deriving DecidableEq

inductive UnaryOperator where
  | not
  | minus
  | plus
  | invert
  deriving DecidableEq

/-- An expression. `starred`, `doubleStarred`, `keyword`, `pair` and `slice` occur only inside the
constructs that allow them. -/
inductive Expr where
  | name (id : String)
  | constant (c : Constant)
  /-- A string with expressions in it. -/
  | formatted (values : List Expr)
  | attribute (base : Expr) (name : String)
  | subscript (base index : Expr)
  | slice (bounds : List (Option Expr))
  | call (callee : Expr) (arguments : List Expr)
  | unary (op : UnaryOperator) (operand : Expr)
  /-- A binary, Boolean or comparing operator, by its symbol or words. -/
  | binary (op : String) (left right : Expr)
  | conditional (test yes no : Expr)
  | lambda (defaults : List Expr) (body : Expr)
  | tuple (items : List Expr)
  | list (items : List Expr)
  | set (items : List Expr)
  | dict (entries : List Expr)
  /-- An element for each round of the clauses. -/
  | comprehension (element : Expr) (clauses : List Expr)
  | await (value : Expr)
  /-- What is yielded, or that from which all is. -/
  | yield (value : Option Expr)
  | assignment (name : String) (value : Expr)
  | starred (value : Expr)
  | doubleStarred (value : Expr)
  | keyword (name : String) (value : Expr)
  | pair (key value : Expr)
  deriving Inhabited

/-- How a parameter takes its values. -/
inductive ParameterRole where
  /-- By position, perhaps also by name. -/
  | positional
  /-- All further values by position. -/
  | rest
  /-- By name alone. -/
  | named
  /-- All further values by name. -/
  | namedRest
  deriving DecidableEq

/-- A parameter of a function. -/
structure Parameter where
  name : String
  role : ParameterRole := .positional
  hint : Option Expr := none
  default : Option Expr := none

/-- An imported name and the name that it is bound to. -/
structure ImportedName where
  name : String
  boundAs : Option String := none
  deriving DecidableEq, Inhabited

inductive Stmt where
  | expr (value : Expr)
  | assign (targets : List Expr) (value : Expr)
  | augmented (target : Expr) (op : String) (value : Expr)
  | annotated (target hint : Expr) (value : Option Expr)
  | pass
  /-- A jump out of a loop, or else to its next round. -/
  | jump (leaves : Bool)
  | return (value : Option Expr)
  | raise (values : List Expr)
  | delete (targets : List Expr)
  | assert (values : List Expr)
  /-- Names that are bound in the module, or else in a function around this one. -/
  | scope (isGlobal : Bool) (names : List String)
  | import (names : List ImportedName)
  /-- A star stands alone under the name `*`. -/
  | importFrom (module : String) (names : List ImportedName) (level : Nat)
  | classDef (decorators : List Expr) (name : String) (arguments : List Expr) (body : List Stmt)
  /-- The body of one that is deferred does not run when the function is called. -/
  | functionDef (deferred : Bool) (decorators : List Expr) (name : String)
      (parameters : List Parameter) (returns : Option Expr) (body : List Stmt)
  /-- Branches with their tests in order, and what is done otherwise. -/
  | conditional (branches : List (Expr × List Stmt)) (otherwise : List Stmt)
  /-- Rounds as long as a test holds, and what is done when it fails. -/
  | whileLoop (test : Expr) (body otherwise : List Stmt)
  /-- A round for each item of a value, and what is done after the last. -/
  | forLoop (target values : Expr) (body otherwise : List Stmt)
  /-- A body inside of values that are entered and left, with what they are bound to. -/
  | within (items : List (Expr × Option Expr)) (body : List Stmt)
  /-- A body with handlers, what is done if it raises nothing, and what is done at last. A handler
  tells which exceptions it is for, unless it is for all, and what name they get. -/
  | attempt (body : List Stmt) (handlers : List (Option Expr × Option String × List Stmt))
      (otherwise final : List Stmt)
  /-- The bodies of a choice by patterns. -/
  | choice (bodies : List (List Stmt))
  deriving Inhabited

mutual

/-- Something is yielded in the expression, and not in a function inside it. -/
def Expr.yields : Expr → Bool
  | .yield _ => true
  | .formatted es | .tuple es | .list es | .set es | .dict es | .lambda es _ => anyYields es
  | .attribute e _ | .unary _ e | .await e | .assignment _ e | .starred e | .doubleStarred e
  | .keyword _ e => e.yields
  | .subscript e i | .binary _ e i | .pair e i => e.yields || i.yields
  | .call e es | .comprehension e es => e.yields || anyYields es
  | .conditional e yes no => e.yields || yes.yields || no.yields
  | .name _ | .constant _ | .slice _ => false

def anyYields : List Expr → Bool
  | [] => false
  | e :: es => e.yields || anyYields es

end

mutual

/-- Something is yielded when the statement runs, and not in a definition inside it. -/
def Stmt.yields : Stmt → Bool
  | .expr e => e.yields
  | .assign targets e => anyYields targets || e.yields
  | .augmented target _ e => target.yields || e.yields
  | .annotated _ _ (some e) => e.yields
  | .return (some e) => e.yields
  | .raise es | .assert es => anyYields es
  | .conditional branches otherwise => branchesYield branches || bodyYields otherwise
  | .whileLoop e body otherwise => e.yields || bodyYields body || bodyYields otherwise
  | .forLoop _ e body otherwise => e.yields || bodyYields body || bodyYields otherwise
  | .within items body => items.any (·.1.yields) || bodyYields body
  | .attempt body handlers otherwise final =>
    bodyYields body || handlersYield handlers || bodyYields otherwise || bodyYields final
  | .choice bodies => bodiesYield bodies
  | .annotated _ _ none | .return none | .pass | .jump _ | .delete _ | .scope _ _ | .import _
  | .importFrom _ _ _ | .classDef _ _ _ _ | .functionDef _ _ _ _ _ _ => false

def bodyYields : List Stmt → Bool
  | [] => false
  | s :: ss => s.yields || bodyYields ss

def branchesYield : List (Expr × List Stmt) → Bool
  | [] => false
  | (test, body) :: bs => test.yields || bodyYields body || branchesYield bs

def handlersYield : List (Option Expr × Option String × List Stmt) → Bool
  | [] => false
  | (_, _, body) :: hs => bodyYields body || handlersYield hs

def bodiesYield : List (List Stmt) → Bool
  | [] => false
  | body :: bs => bodyYields body || bodiesYield bs

end

end Exposure.Source
