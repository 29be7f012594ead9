import Exposure.Source.Literal
import Exposure.Source.Parser.Basic
import Exposure.Source.Token.Lexer

/-!
Expressions. Every reader here is given the reader `e` of expressions one level deeper, so that
only the last definition is recursive: its fuel bounds the nesting.
-/
namespace Exposure.Source.Parser

open Parse

/-- The next token begins what can stand after an expression in a list. -/
def endsItems : Parse Bool := do
  match ← peek with
  | none => return true
  | some .newline => return true
  | some (.symbol s) =>
    return [")", "]", "\x7d", "=", ":", ";"].contains s || s.endsWith "=" && s ≠ "=="
  | some (.keyword w) => return w = "in" || w = "for" || w = "async"
  | _ => return false

-- operators

/-- The binary operators from the loosest to the tightest; those of a level group to the left. -/
def binaryLevels : List (List String) :=
  [["|"], ["^"], ["&"], ["<<", ">>"], ["+", "-"], ["*", "/", "//", "%", "@"]]

/-- One of the symbols, if it comes next. -/
def acceptAny (symbols : List String) : Parse (Option String) := do
  match ← peek with
  | some (.symbol s) => if symbols.contains s then advance; return some s else return none
  | _ => return none

/-- Operands with operators between them, grouped to the left. -/
def leftGrouped (op : Parse (Option String)) (operand : Parse Expr) : Parse Expr := do
  let first ← operand
  let rest ← many do
    match ← op with
    | some o => return some (o, ← operand)
    | none => return none
  return rest.foldl (fun l p => .binary p.1 l p.2) first

/-- A power or what has a sign before it; the fuel bounds the signs. -/
def signed (primary : Parse Expr) : Nat → Parse Expr
  | 0 => refuse
  | n + 1 => do
    match ← acceptAny ["+", "-", "~"] with
    | some "+" => return .unary .plus (← signed primary n)
    | some "-" => return .unary .minus (← signed primary n)
    | some _ => return .unary .invert (← signed primary n)
    | none =>
      let awaited ← acceptKeyword "await"
      let value ← primary
      let base := if awaited then .await value else value
      if ← acceptSymbol "**" then return .binary "**" base (← signed primary n) else return base

def levels (primary : Parse Expr) : List (List String) → Parse Expr
  | [] => do signed primary ((← budget) + 1)
  | symbols :: tighter => leftGrouped (acceptAny symbols) (levels primary tighter)

/-- A comparing operator, if one comes next. -/
def comparing : Parse (Option String) := do
  match ← peek, ← peekSecond with
  | some (.keyword "not"), some (.keyword "in") => advance; advance; return some "not in"
  | some (.keyword "is"), some (.keyword "not") => advance; advance; return some "is not"
  | some (.keyword "is"), _ => advance; return some "is"
  | some (.keyword "in"), _ => advance; return some "in"
  | _, _ => acceptAny ["==", "!=", "<=", "<", ">=", ">"]

def acceptWord (w : String) : Parse (Option String) := do
  if ← acceptKeyword w then return some w else return none

/-- Comparisons in a row: all of them hold together, and an operand between two takes part in
both. -/
def compared (operand : Parse Expr) : Parse Expr := do
  let first ← operand
  let rest ← many do
    match ← comparing with
    | some o => return some (o, ← operand)
    | none => return none
  let join (left : Option Expr × Expr) (next : String × Expr) : Option Expr × Expr :=
    let here : Expr := .binary next.1 left.2 next.2
    (some (left.1.elim here fun before => .binary "and" before here), next.2)
  let (joined, _) := rest.foldl join (none, first)
  return joined.getD first

/-- A comparison with negations before it. -/
def negated (bitwise : Parse Expr) : Nat → Parse Expr
  | 0 => refuse
  | n + 1 => do
    if ← acceptKeyword "not" then return .unary .not (← negated bitwise n)
    else compared bitwise

def disjunctionOf (bitwise : Parse Expr) : Parse Expr :=
  leftGrouped (acceptWord "or") (leftGrouped (acceptWord "and") do negated bitwise ((← budget) + 1))

-- strings

/-- How the expressions of a formatted string are read from their text. -/
abbrev ReadText := List Char → Option Expr

/-- Scans one expression of a formatted string up to what ends it at the outermost level. `done`
holds what was passed, in reverse; `open_` the closing brackets to come; `quote` the string that
the scan is in, with one or three quotes. -/
def scanExpression (done : List Char) (open_ : List Char) (quote : Option (Char × Bool)) :
    List Char → Option (List Char × List Char)
  | [] => none
  | '\\' :: _ => none
  | c :: r =>
    match quote with
    | some (q, triple) =>
      if c ≠ q then scanExpression (c :: done) open_ quote r
      else if !triple then scanExpression (c :: done) open_ none r
      else match r with
        | a :: b :: r' =>
          if a = q ∧ b = q then scanExpression (b :: a :: c :: done) open_ none r'
          else scanExpression (c :: done) open_ quote (a :: b :: r')
        | r => scanExpression (c :: done) open_ quote r
    | none =>
      if Lexer.isQuote c then
        match r with
        | a :: b :: r' =>
          if a = c ∧ b = c then scanExpression (b :: a :: c :: done) open_ (some (c, true)) r'
          else scanExpression (c :: done) open_ (some (c, false)) (a :: b :: r')
        | r => scanExpression (c :: done) open_ (some (c, false)) r
      else if c = '#' then none
      else
        match Lexer.closing? (String.singleton c), open_ with
        | some close, _ => scanExpression (c :: done) (close :: open_) none r
        | none, [] =>
          if (c = '!' ∨ c = '=' ∨ c = '<' ∨ c = '>') ∧ r.head? = some '=' then
            scanExpression ('=' :: c :: done) open_ none (r.drop 1)
          else if c = '!' ∨ c = ':' ∨ c = '\x7d' ∨ c = '=' then some (done.reverse, c :: r)
          else if c = ')' ∨ c = ']' then none
          else scanExpression (c :: done) open_ none r
        | none, close :: outer =>
          if c = ')' ∨ c = ']' ∨ c = '\x7d' then
            if c = close then scanExpression (c :: done) outer none r else none
          else scanExpression (c :: done) open_ none r
termination_by s => s.length
decreasing_by all_goals simp_wf <;> omega

/-- The rest after a conversion, if there is one. -/
def conversion? : List Char → Option (List Char)
  | '!' :: c :: r =>
    if (c = 's' ∨ c = 'r' ∨ c = 'a') ∧ (r.head? = some ':' ∨ r.head? = some '\x7d') then some r
    else none
  | ['!'] => none
  | s => some s

/-- A piece of literal text: the end of it is a brace that is not doubled. -/
def literalPiece (raw nested : Bool) (done : List Char) : List Char → Option (List Char × List Char)
  | [] => some (done.reverse, [])
  | '\\' :: c :: r =>
    if raw ∨ c = '\x7b' ∨ c = '\x7d' then literalPiece raw nested ('\\' :: done) (c :: r)
    else if c = 'N' ∧ r.head? = some '\x7b' then
      -- the braces belong to the name of a character
      let isInside (d : Char) : Bool := d ≠ '\x7d'
      let rest := r.dropWhile isInside
      let name := (rest.take 1).reverse ++ (r.takeWhile isInside).reverse
      literalPiece raw nested (name ++ 'N' :: '\\' :: done) (rest.drop 1)
    else literalPiece raw nested (c :: '\\' :: done) r
  | c :: r =>
    if c = '\x7b' ∨ c = '\x7d' then
      if nested then some (done.reverse, c :: r)
      else if r.head? = some c then literalPiece raw nested (c :: done) (r.drop 1)
      else if c = '\x7d' then none
      else some (done.reverse, c :: r)
    else literalPiece raw nested (c :: done) r
termination_by s => s.length
decreasing_by
  all_goals simp_wf
  all_goals try
    have h := (List.dropWhile_sublist (l := r) fun d => !decide (d = '\x7d')).length_le
  all_goals omega

/-- Deepest nesting of format descriptions. -/
def formatDepth : Nat := 2

/-- The expressions of a formatted string. Inside the description of a format the text ends at a
closing brace, and the rest is given back. The fuel bounds the pieces. -/
def pieces (read : ReadText) (raw : Bool) (level fuel : Nat) (s : List Char) :
    Option (List Expr × List Char) :=
  match fuel with
  | 0 => none
  | fuel + 1 => do
    let (text, r) ← literalPiece raw (level ≠ 0) [] s
    if !raw then let _ ← Literal.decode? false text.length text
    match r with
    | '\x7b' :: r =>
      if formatDepth ≤ level then none
      let (inside, r) ← scanExpression [] [] none r
      if inside.all fun c => c = ' ' || c = '\t' || c = '\n' || c = '\x0c' then none
      let value ← read inside
      let r := match r with
        | '=' :: r' => r'.dropWhile fun c => c = ' ' || ('\t' ≤ c && c ≤ '\r')
        | r => r
      let r ← conversion? r
      let (described, r) ← match r with
        | ':' :: r' => pieces read raw (level + 1) fuel r'
        | r => some ([], r)
      match r with
      | '\x7d' :: r' =>
        let (rest, last) ← pieces read raw level fuel r'
        some (value :: described ++ rest, last)
      | _ => none
    | r => some ([], r)

/-- The expressions of a formatted string's body. -/
def formattedValues? (read : ReadText) (form : StringForm) (body : List Char) :
    Option (List Expr) := do
  let (values, rest) ← pieces read form.raw 0 (body.length + 1) body
  if rest.isEmpty then some values else none

/-- Adjacent strings make one value. Bytes and text do not mix. -/
def stringValue? (read : ReadText) (parts : List (StringForm × List Char)) : Option Expr := do
  let bytes := parts.any (·.1.bytes)
  if bytes && parts.any (!·.1.bytes) then none
  if parts.any (·.1.formatted) then
    let values ← parts.mapM fun p =>
      if p.1.formatted then formattedValues? read p.1 p.2
      else (Literal.plain? p.1 p.2).map fun _ => []
    some (.formatted values.flatten)
  else
    let texts ← parts.mapM fun p => Literal.plain? p.1 p.2
    let text := "".intercalate texts
    some (.constant (if bytes then .bytes text else .text text))

/-- A string token, if one comes next. -/
def stringPart : Parse (Option (StringForm × List Char)) := do
  match ← peek with
  | some (.string form body) => advance; return some (form, body)
  | _ => return none

-- targets

mutual

/-- May be assigned to; `stars` allows a starred target. -/
def isTarget (stars : Bool) : Expr → Bool
  | .name _ => true
  | .attribute _ _ => true
  | .subscript _ _ => true
  | .tuple items => areTargets items
  | .list items => areTargets items
  | .starred e => stars && isTarget false e
  | _ => false

def areTargets : List Expr → Bool
  | [] => true
  | e :: es => isTarget true e && areTargets es

end

/-- May stand before a type hint or an operator that assigns. -/
def isSingleTarget : Expr → Bool
  | .name _ => true
  | .attribute _ _ => true
  | .subscript _ _ => true
  | _ => false

mutual

/-- May be deleted. -/
def isDeletable : Expr → Bool
  | .name _ => true
  | .attribute _ _ => true
  | .subscript _ _ => true
  | .tuple items => areDeletable items
  | .list items => areDeletable items
  | _ => false

def areDeletable : List Expr → Bool
  | [] => true
  | e :: es => isDeletable e && areDeletable es

end

-- constructs around the nested reader

section

variable (e : Parse Expr)

/-- An expression that may bind its value to a name. -/
def named : Parse Expr := do
  match ← peek, ← peekSecond with
  | some (.name id), some (.symbol ":=") =>
    advance; advance
    return .assignment id (← e)
  | _, _ => e

/-- One or more items as a value: a single one without a comma is itself. -/
def itemsOrOne (ends : Parse Bool) (item : Parse Expr) : Parse Expr := do
  match ← commaList ends item with
  | ([x], false) => return x
  | (xs, _) => return .tuple xs

/-- Targets of a loop: what can be assigned to, one or several. -/
def targets (primary : Parse Expr) : Parse Expr := do
  let item : Parse Expr := do
    if ← acceptSymbol "*" then return .starred (← primary) else primary
  let t ← itemsOrOne endsItems item
  if isTarget true t then return t else refuse

/-- A clause of a comprehension with its conditions, if one comes next. -/
def clause (primary bitwise : Parse Expr) : Parse (Option (List Expr)) := do
  let start : Parse Bool := do
    if ← isKeyword "async" then
      advance
      expectKeyword "for"
      return true
    else acceptKeyword "for"
  if ← start then
    let t ← targets primary
    expectKeyword "in"
    let source ← disjunctionOf bitwise
    let conditions ← many do
      if ← acceptKeyword "if" then return some (← disjunctionOf bitwise) else return none
    return some (t :: source :: conditions)
  else return none

def clauses (primary bitwise : Parse Expr) : Parse (List Expr) := do
  return (← many (clause primary bitwise)).flatten

/-- The comprehension of an element, if clauses follow. -/
def comprehended (primary bitwise : Parse Expr) (element : Expr) : Parse (Option Expr) := do
  match ← clauses primary bitwise, element with
  | [], _ => return none
  | _, .starred _ => refuse
  | _, .doubleStarred _ => refuse
  | _, .keyword _ _ => refuse
  | cs, element => return some (.comprehension element cs)

/-- How far a list of arguments has come: which kinds may still follow. -/
inductive ArgumentStage where
  | positional
  | keywords
  | doubleStars
  deriving DecidableEq

/-- One argument and the stage behind it. -/
def argument (stage : ArgumentStage) : Parse (Expr × ArgumentStage) := do
  if ← acceptSymbol "**" then return (.doubleStarred (← e), .doubleStars)
  if ← acceptSymbol "*" then
    if stage = .doubleStars then refuse
    return (.starred (← e), stage)
  match ← peek, ← peekSecond with
  | some (.name id), some (.symbol "=") =>
    advance; advance
    return (.keyword id (← e), if stage = .positional then .keywords else stage)
  | _, _ =>
    if stage = .positional then return (← named e, stage) else refuse

/-- Arguments up to the closing bracket. -/
def arguments (stage : ArgumentStage) : Nat → Parse (List Expr)
  | 0 => refuse
  | n + 1 => do
    if ← acceptSymbol ")" then return []
    let (a, stage) ← argument e stage
    if ← acceptSymbol "," then return a :: (← arguments stage n)
    expectSymbol ")"
    return [a]

/-- The arguments of a call after its bracket; a comprehension may be the only one. -/
def callArguments (primary bitwise : Parse Expr) : Parse (List Expr) := do
  if ← acceptSymbol ")" then return []
  let (a, stage) ← argument e .positional
  match ← comprehended primary bitwise a with
  | some c =>
    expectSymbol ")"
    return [c]
  | none =>
    if ← acceptSymbol "," then return a :: (← arguments e stage ((← budget) + 1))
    expectSymbol ")"
    return [a]

/-- One index, or a slice with its bounds. -/
def indexItem : Parse Expr := do
  if ← acceptSymbol "*" then return .starred (← e)
  let bound : Parse (Option Expr) := do
    if (← isSymbol ":") || (← isSymbol ",") || (← isSymbol "]") then return none
    else return some (← e)
  if ← isSymbol ":" then
    advance
    let high ← bound
    if ← acceptSymbol ":" then return .slice [none, high, ← bound] else return .slice [none, high]
  else
    let low ← named e
    if ← isSymbol ":" then
      match low with
      | .assignment _ _ => refuse
      | low =>
        advance
        let high ← bound
        if ← acceptSymbol ":" then return .slice [some low, high, ← bound]
        else return .slice [some low, high]
    else return low

/-- What stands between square brackets behind a value. -/
def index : Parse Expr := do
  match ← commaList (isSymbol "]") (indexItem e) with
  | ([.starred x], false) => return .tuple [.starred x]
  | ([x], false) => return x
  | (xs, _) => return .tuple xs

/-- An item of a display that may be starred. -/
def starredOrNamed (bitwise : Parse Expr) : Parse Expr := do
  if ← acceptSymbol "*" then return .starred (← bitwise) else named e

/-- One or more expressions, starred ones among them. -/
def starExpressions (bitwise : Parse Expr) : Parse Expr := do
  let item : Parse Expr := do
    if ← acceptSymbol "*" then return .starred (← bitwise) else e
  itemsOrOne endsItems item

/-- A value that is yielded. -/
def yieldExpression (bitwise : Parse Expr) : Parse Expr := do
  expectKeyword "yield"
  if ← acceptKeyword "from" then return .yield (some (← e))
  if ← endsItems then return .yield none
  return .yield (some (← starExpressions e bitwise))

/-- What stands in round brackets, after the opening one. -/
def grouped (primary bitwise : Parse Expr) : Parse Expr := do
  if ← acceptSymbol ")" then return .tuple []
  if ← isKeyword "yield" then
    let y ← yieldExpression e bitwise
    expectSymbol ")"
    return y
  let first ← starredOrNamed e bitwise
  if ← acceptSymbol "," then
    if ← acceptSymbol ")" then return .tuple [first]
    let (rest, _) ← commaList (isSymbol ")") (starredOrNamed e bitwise)
    expectSymbol ")"
    return .tuple (first :: rest)
  let value ← comprehended primary bitwise first
  expectSymbol ")"
  match value, first with
  | some c, _ => return c
  | none, .starred _ => refuse
  | none, first => return first

/-- What stands in square brackets, after the opening one. -/
def listDisplay (primary bitwise : Parse Expr) : Parse Expr := do
  if ← acceptSymbol "]" then return .list []
  let first ← starredOrNamed e bitwise
  if ← acceptSymbol "," then
    if ← acceptSymbol "]" then return .list [first]
    let (rest, _) ← commaList (isSymbol "]") (starredOrNamed e bitwise)
    expectSymbol "]"
    return .list (first :: rest)
  let value ← comprehended primary bitwise first
  expectSymbol "]"
  return value.getD (.list [first])

/-- An entry of a dictionary. -/
def entry (bitwise : Parse Expr) : Parse Expr := do
  if ← acceptSymbol "**" then return .doubleStarred (← bitwise)
  let key ← e
  expectSymbol ":"
  return .pair key (← e)

/-- The rest of a display in braces behind its first item. -/
def braceRest (primary bitwise item : Parse Expr) (display : List Expr → Expr) (first : Expr) :
    Parse Expr := do
  if ← acceptSymbol "," then
    if ← acceptSymbol "\x7d" then return display [first]
    let (rest, _) ← commaList (isSymbol "\x7d") item
    expectSymbol "\x7d"
    return display (first :: rest)
  let value ← comprehended primary bitwise first
  expectSymbol "\x7d"
  return value.getD (display [first])

/-- What stands in braces, after the opening one. -/
def braceDisplay (primary bitwise : Parse Expr) : Parse Expr := do
  if ← acceptSymbol "\x7d" then return .dict []
  let dict (first : Expr) : Parse Expr :=
    braceRest primary bitwise (entry e bitwise) .dict first
  if ← isSymbol "**" then dict (← entry e bitwise)
  else
    let first ← starredOrNamed e bitwise
    if ← acceptSymbol ":" then
      match first with
      | .starred _ => refuse
      | .assignment _ _ => refuse
      | key => dict (.pair key (← e))
    else braceRest primary bitwise (starredOrNamed e bitwise) .set first

/-- Names, literals and what stands in brackets. -/
def atom (read : ReadText) (primary bitwise : Parse Expr) : Parse Expr := do
  match ← peek with
  | some (.name id) => advance; return .name id
  | some (.keyword "None") => advance; return .constant .null
  | some (.keyword "True") => advance; return .constant (.bool true)
  | some (.keyword "False") => advance; return .constant (.bool false)
  | some (.number n) => advance; return .constant (.number n)
  | some (.string _ _) =>
    let parts ← many stringPart
    match stringValue? read parts with
    | some v => return v
    | none => refuse
  | some (.symbol "...") => advance; return .constant .ellipsis
  | some (.symbol "(") => advance; grouped e primary bitwise
  | some (.symbol "[") => advance; listDisplay e primary bitwise
  | some (.symbol "\x7b") => advance; braceDisplay e primary bitwise
  | _ => refuse

/-- An attribute, a call or an index behind a value, if one comes next. -/
def trailer (primary bitwise : Parse Expr) : Parse (Option (Expr → Expr)) := do
  match ← peek with
  | some (.symbol ".") =>
    advance
    let n ← name
    return some fun x => .attribute x n
  | some (.symbol "(") =>
    advance
    let args ← callArguments e primary bitwise
    return some fun x => .call x args
  | some (.symbol "[") =>
    advance
    let i ← index e
    expectSymbol "]"
    return some fun x => .subscript x i
  | _ => return none

/-- An atom with what stands behind it. The readers of the parts nested in it are a level deeper. -/
def primaryOf (read : ReadText) (primary bitwise : Parse Expr) : Parse Expr := do
  let first ← atom e read primary bitwise
  let rest ← many (trailer e primary bitwise)
  return rest.foldl (fun x f => f x) first

/-- The parameters of a function without a body of its own. -/
inductive ParameterStage where
  | plain
  | defaults
  | afterStar
  | closed
  deriving DecidableEq

/-- Parameters up to what ends them. The reader of a type hint is told whether the parameter has a
star; `slashed` tells that those given by position alone are over. -/
def parameters (hint : Bool → Parse (Option Expr)) (ends : Parse Bool) (stage : ParameterStage)
    (slashed : Bool) (done : List Parameter) : Nat → Parse (List Parameter)
  | 0 => refuse
  | n + 1 => do
    if ← ends then return done
    if stage = .closed then refuse
    let next (stage : ParameterStage) (slashed : Bool) (done : List Parameter) :
        Parse (List Parameter) := do
      if ← acceptSymbol "," then parameters hint ends stage slashed done n
      else if ← ends then return done
      else refuse
    if ← acceptSymbol "/" then
      if slashed || done.isEmpty || stage = .afterStar then refuse
      next stage true done
    else if ← acceptSymbol "**" then
      let id ← name
      let a ← hint false
      next .closed true (done ++ [{ name := id, role := .namedRest, hint := a }])
    else if ← acceptSymbol "*" then
      if stage = .afterStar then refuse
      if ← acceptSymbol "," then
        -- a lone star needs a name behind it
        match ← peek with
        | some (.name _) => parameters hint ends .afterStar true done n
        | _ => refuse
      else
        let id ← name
        let a ← hint true
        next .afterStar true (done ++ [{ name := id, role := .rest, hint := a }])
    else
      let id ← name
      let a ← hint false
      let role : ParameterRole := if stage = .afterStar then .named else .positional
      if ← acceptSymbol "=" then
        let v ← e
        next (if stage = .afterStar then stage else .defaults) slashed
          (done ++ [{ name := id, role, hint := a, default := some v }])
      else if stage = .defaults then refuse
      else next stage slashed (done ++ [{ name := id, role, hint := a }])

/-- An anonymous function after its first word. -/
def lambda : Parse Expr := do
  let ps ← parameters e (fun _ => return none) (isSymbol ":") .plain false [] ((← budget) + 1)
  expectSymbol ":"
  return .lambda (ps.filterMap Parameter.default) (← e)

/-- A conditional expression or an anonymous function. -/
def expressionOf (bitwise : Parse Expr) : Parse Expr := do
  if ← acceptKeyword "lambda" then lambda e
  else
    let value ← disjunctionOf bitwise
    if ← acceptKeyword "if" then
      let test ← disjunctionOf bitwise
      expectKeyword "else"
      return .conditional test value (← e)
    else return value

end

/-- The readers of expressions of one nesting depth. -/
structure Level where
  expression : Parse Expr
  primary : Parse Expr

/-- An operand of comparisons. -/
def Level.bitwise (l : Level) : Parse Expr := levels l.primary binaryLevels

/-- The value of a text in brackets of its own. -/
def Level.readText (l : Level) : ReadText := fun text => do
  let tokens ← Lexer.tokens? (String.ofList ('(' :: text ++ [')']))
  let (value, _) ← (starExpressions l.expression l.bitwise) tokens
  some value

/-- Readers whose nested parts are read one level deeper. -/
def Level.next (l : Level) : Level :=
  let primary := primaryOf l.expression l.readText l.primary l.bitwise
  { primary, expression := expressionOf l.expression (levels primary binaryLevels) }

/-- The readers for a nesting depth. -/
def level : Nat → Level
  | 0 => ⟨Parse.refuse, Parse.refuse⟩
  | n + 1 => ⟨fun ts => (level n).next.expression ts, fun ts => (level n).next.primary ts⟩

end Exposure.Source.Parser
