import Exposure.Source.Parser.Pattern

/-!
Statements and whole modules. The reader `block` of nested blocks is given to every compound
statement; the fuel of the last definition bounds how deep blocks are nested.
-/
namespace Exposure.Source.Parser

open Parse

section

variable (l : Level)

def starred : Parse Expr := starExpressions l.expression l.bitwise

/-- A value that is assigned. -/
def assigned : Parse Expr := do
  if ← isKeyword "yield" then yieldExpression l.expression l.bitwise else starred l

/-- Operators that change a variable. -/
def augmenting : List String :=
  ["+=", "-=", "*=", "@=", "/=", "%=", "&=", "|=", "^=", "<<=", ">>=", "**=", "//="]

/-- The values of a chain of assignments, the last of which is assigned to the others. -/
def assignmentChain (first : Expr) : Parse Stmt := do
  let rest ← many do if ← acceptSymbol "=" then return some (← assigned l) else return none
  match (first :: rest).reverse with
  | [value] => return .expr value
  | value :: targets =>
    if targets.all (isTarget true) then return .assign targets.reverse value else refuse
  | [] => refuse

/-- A statement that begins with a value: the value alone or an assignment in any form. -/
def valueStatement : Parse Stmt := do
  if ← isKeyword "yield" then
    let y ← yieldExpression l.expression l.bitwise
    return .expr y
  let first ← starred l
  if ← acceptSymbol ":" then
    unless isSingleTarget first do refuse
    let hint ← l.expression
    if ← acceptSymbol "=" then return .annotated first hint (some (← assigned l))
    return .annotated first hint none
  match ← acceptAny augmenting with
  | some op =>
    unless isSingleTarget first do refuse
    return .augmented first op (← assigned l)
  | none => assignmentChain l first

/-- A dotted name. -/
def dottedName : Parse String := do
  let first ← name
  let rest ← many do if ← acceptSymbol "." then return some (← name) else return none
  return ".".intercalate (first :: rest)

/-- The name that an import binds, if one is given. -/
def boundName : Parse (Option String) := do
  if ← acceptKeyword "as" then return some (← name) else return none

def importStatement : Parse Stmt := do
  let names ← commaSeparated do
    let n ← dottedName
    return { name := n, boundAs := ← boundName : ImportedName }
  return .import names

/-- The dots before the module of an import. -/
def importLevel : Parse Nat := do
  let dots ← many do
    if ← acceptSymbol "." then return some 1
    else if ← acceptSymbol "..." then return some 3
    else return none
  return dots.foldl (· + ·) 0

def importedName : Parse ImportedName := do
  let n ← name
  return { name := n, boundAs := ← boundName }

def importFromStatement : Parse Stmt := do
  let level ← importLevel
  let module ← if level ≠ 0 && (← isKeyword "import") then pure "" else dottedName
  expectKeyword "import"
  if ← acceptSymbol "*" then return .importFrom module [{ name := "*" }] level
  if ← acceptSymbol "(" then
    let (names, _) ← commaList (isSymbol ")") importedName
    expectSymbol ")"
    return .importFrom module names level
  return .importFrom module (← commaSeparated importedName) level

def deleteStatement : Parse Stmt := do
  let (targets, _) ← commaList endsItems l.primary
  if targets.all isDeletable then return .delete targets else refuse

/-- A test and perhaps what is said where it fails. -/
def assertStatement : Parse Stmt := do
  let test ← l.expression
  if ← acceptSymbol "," then return .assert [test, ← l.expression] else return .assert [test]

/-- A statement on one line without the end of it. -/
def simpleStatement : Parse Stmt := do
  match ← peek with
  | some (.keyword w) =>
    match w with
    | "pass" => advance; return .pass
    | "break" => advance; return .jump true
    | "continue" => advance; return .jump false
    | "return" =>
      advance
      if ← endsItems then return .return none else return .return (some (← starred l))
    | "raise" =>
      advance
      if ← endsItems then return .raise []
      let e ← l.expression
      if ← acceptKeyword "from" then return .raise [e, ← l.expression] else return .raise [e]
    | "del" => advance; deleteStatement l
    | "assert" => advance; assertStatement l
    | "global" => advance; return .scope true (← commaSeparated name)
    | "nonlocal" => advance; return .scope false (← commaSeparated name)
    | "import" => advance; importStatement
    | "from" => advance; importFromStatement
    | _ => valueStatement l
  | _ => valueStatement l

/-- Simple statements on one line, up to its end. -/
def simpleLine : Parse (List Stmt) := do
  let first ← simpleStatement l
  let rest ← many do
    if ← acceptSymbol ";" then
      if (← peek) = some .newline then return none else return some (← simpleStatement l)
    else return none
  expect .newline
  return first :: rest

/-- The block after a colon: simple statements on the same line, or indented lines. -/
def suite (block : Parse (List Stmt)) : Parse (List Stmt) := do
  expectSymbol ":"
  if ← accept .newline then
    expect .indent
    let body ← block
    expect .dedent
    return body
  else simpleLine l

/-- A block behind a word, if the word comes next. -/
def optionalSuite (word : String) (block : Parse (List Stmt)) : Parse (List Stmt) := do
  if ← acceptKeyword word then suite l block else return []

def namedExpression : Parse Expr := named l.expression

def ifStatement (block : Parse (List Stmt)) : Parse Stmt := do
  let test ← namedExpression l
  let body ← suite l block
  let rest ← many do
    if ← acceptKeyword "elif" then
      let test ← namedExpression l
      return some (test, ← suite l block)
    else return none
  return .conditional ((test, body) :: rest) (← optionalSuite l "else" block)

def whileStatement (block : Parse (List Stmt)) : Parse Stmt := do
  let test ← namedExpression l
  let body ← suite l block
  return .whileLoop test body (← optionalSuite l "else" block)

def forStatement (block : Parse (List Stmt)) : Parse Stmt := do
  let target ← targets l.primary
  expectKeyword "in"
  let values ← starred l
  let body ← suite l block
  return .forLoop target values body (← optionalSuite l "else" block)

/-- A value and what it is bound to. -/
def withItem : Parse (Expr × Option Expr) := do
  let value ← l.expression
  if ← acceptKeyword "as" then
    let star ← acceptSymbol "*"
    let t ← l.primary
    let target := if star then .starred t else t
    unless isTarget true target do refuse
    return (value, some target)
  return (value, none)

def withStatement (block : Parse (List Stmt)) : Parse Stmt := do
  let bracketed : Parse (List (Expr × Option Expr)) := do
    expectSymbol "("
    let (items, _) ← commaList (isSymbol ")") (withItem l)
    expectSymbol ")"
    unless ← isSymbol ":" do refuse
    return items
  let items ← either bracketed (commaSeparated (withItem l))
  return .within items (← suite l block)

/-- The part of a handler before its block; the flag says that it has a star. -/
def handlerHead : Parse (Bool × Option Expr × Option String) := do
  let star ← acceptSymbol "*"
  if ← isSymbol ":" then
    if star then refuse
    return (false, none, none)
  let kind ← l.expression
  return (star, some kind, ← boundName)

def tryStatement (block : Parse (List Stmt)) : Parse Stmt := do
  let body ← suite l block
  let handlers ← many do
    if ← acceptKeyword "except" then
      let (star, kind, bound) ← handlerHead l
      return some (star, kind, bound, ← suite l block)
    else return none
  if handlers.any (·.1) && handlers.any (!·.1) then refuse
  let otherwise ← if handlers.isEmpty then pure [] else optionalSuite l "else" block
  if handlers.isEmpty then
    unless ← isKeyword "finally" do refuse
  let finally_ ← optionalSuite l "finally" block
  return .attempt body (handlers.map (·.2)) otherwise finally_

/-- The type hint of a parameter, if it has one; behind a star it may be starred itself. -/
def parameterHint (star : Bool) : Parse (Option Expr) := do
  if ← acceptSymbol ":" then
    if star && (← acceptSymbol "*") then return some (.starred (← l.bitwise))
    return some (← l.expression)
  else return none

def functionDefinition (isAsync : Bool) (decorators : List Expr) (block : Parse (List Stmt)) :
    Parse Stmt := do
  let id ← name
  expectSymbol "("
  let ps ← parameters l.expression (parameterHint l) (isSymbol ")") .plain false []
    ((← budget) + 1)
  expectSymbol ")"
  let returns ← if ← acceptSymbol "->" then pure (some (← l.expression)) else pure none
  let body ← suite l block
  return .functionDef (isAsync || bodyYields body) decorators id ps returns body

def classDefinition (decorators : List Expr) (block : Parse (List Stmt)) : Parse Stmt := do
  let id ← name
  let args ← if ← acceptSymbol "(" then arguments l.expression .positional ((← budget) + 1)
    else pure []
  return .classDef decorators id args (← suite l block)

/-- The lines with decorators before a definition. -/
def decorators : Parse (List Expr) := many do
  if ← acceptSymbol "@" then
    let d ← namedExpression l
    expect .newline
    return some d
  else return none

/-- A definition behind its decorators. -/
def definition (ds : List Expr) (block : Parse (List Stmt)) : Parse Stmt := do
  if ← acceptKeyword "async" then
    expectKeyword "def"
    functionDefinition l true ds block
  else if ← acceptKeyword "def" then functionDefinition l false ds block
  else if ← acceptKeyword "class" then classDefinition l ds block
  else refuse

/-- A choice among cases. -/
def matchStatement (block : Parse (List Stmt)) : Parse Stmt := do
  expect (.name "match")
  let item : Parse Expr := do
    if ← acceptSymbol "*" then return .starred (← l.bitwise) else namedExpression l
  match ← commaList endsItems item with
  | ([.starred _], false) => refuse
  | _ => pure ()
  expectSymbol ":"
  expect .newline
  expect .indent
  let cases ← many do
    if ← accept (.name "case") then
      CasePattern.top l.readText
      if ← acceptKeyword "if" then
        let _ ← namedExpression l
      return some (← suite l block)
    else return none
  if cases.isEmpty then refuse
  expect .dedent
  return .choice cases

/-- A compound statement, or simple statements up to the end of their line. -/
def statements (block : Parse (List Stmt)) : Parse (List Stmt) := do
  match ← peek, ← peekSecond with
  | some (.symbol "@"), _ =>
    let ds ← decorators l
    return [← definition l ds block]
  | some (.keyword "async"), some (.keyword "for") =>
    advance; advance
    return [← forStatement l block]
  | some (.keyword "async"), some (.keyword "with") =>
    advance; advance
    return [← withStatement l block]
  | some (.keyword w), _ =>
    match w with
    | "if" => advance; return [← ifStatement l block]
    | "while" => advance; return [← whileStatement l block]
    | "for" => advance; return [← forStatement l block]
    | "try" => advance; return [← tryStatement l block]
    | "with" => advance; return [← withStatement l block]
    | "def" => return [← definition l [] block]
    | "class" => return [← definition l [] block]
    | "async" => return [← definition l [] block]
    | _ => simpleLine l
  | some (.name "match"), _ =>
    either (do return [← matchStatement l block]) (simpleLine l)
  | _, _ => simpleLine l

/-- Statements up to the end of a block or of the text. -/
def statementList (block : Parse (List Stmt)) : Parse (List Stmt) := do
  let groups ← many do
    match ← peek with
    | none => return none
    | some .dedent => return none
    | _ => return some (← statements l block)
  return groups.flatten

/-- A block of bounded nesting; it is not empty. -/
def blockOf : Nat → Parse (List Stmt)
  | 0 => refuse
  | n + 1 => fun ts => statementList l (blockOf n) ts

end

/-- The statements of a module, if the text is one. -/
def parse? (source : String) : Option (List Stmt) := do
  let tokens ← Lexer.tokens? source
  let (body, rest) ← (blockOf (level (source.length + 2)) (Lexer.indentLimit + 2)) tokens
  if rest.isEmpty then some body else none

end Exposure.Source.Parser
