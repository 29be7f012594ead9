import Exposure.Source.Parser.Expression

/-!
Patterns of a case. Only their form is checked; nothing of them is kept. As with expressions, the
reader `p` of patterns one level deeper is given to every other.
-/
namespace Exposure.Source.Parser

open Parse

namespace CasePattern

/-- Characters that make a name more than a name. -/
def continues : Parse Bool := do
  return (← isSymbol ".") || (← isSymbol "(") || (← isSymbol "=")

/-- A name with attributes behind it; the flag says that there are some. -/
def dotted : Parse (String × Bool) := do
  let first ← name
  let rest ← many do if ← acceptSymbol "." then return some (← name) else return none
  return (first, !rest.isEmpty)

def isImaginary : Number → Bool
  | .imaginary _ => true
  | _ => false

def number : Parse Number := do
  match ← peek with
  | some (.number n) => advance; return n
  | _ => refuse

/-- A number with a sign, or the sum of a real and an imaginary one. -/
def signedNumber : Parse Unit := do
  let _ ← acceptSymbol "-"
  let n ← number
  if (← acceptAny ["+", "-"]).isSome then
    if isImaginary n || !isImaginary (← number) then refuse

/-- A literal, if one comes next. -/
def literal (read : ReadText) : Parse Bool := do
  match ← peek with
  | some (.number _) => signedNumber; return true
  | some (.symbol "-") => signedNumber; return true
  | some (.string _ _) =>
    match stringValue? read (← many stringPart) with
    | some _ => return true
    | none => refuse
  | some (.keyword w) =>
    if ["None", "True", "False"].contains w then advance; return true else return false
  | _ => return false

/-- What a star in a sequence is bound to. -/
def starTarget : Parse Unit := do
  let _ ← name
  if ← continues then refuse

section

variable (p : Parse Unit)

def sequenceItem : Parse Unit := do if ← acceptSymbol "*" then starTarget else p

/-- Items of a sequence up to its closing bracket. -/
def sequence (close : String) : Parse Unit := do
  unless ← acceptSymbol close do
    let _ ← commaList (isSymbol close) (sequenceItem p)
    expectSymbol close

/-- What stands in round brackets: one pattern, or a sequence. -/
def grouped : Parse Unit := do
  unless ← acceptSymbol ")" do
    let starred ← isSymbol "*"
    sequenceItem p
    if ← acceptSymbol "," then sequence p ")"
    else
      if starred then refuse
      expectSymbol ")"

/-- An entry of a mapping; the flag says that it takes what is left. -/
def mappingItem (read : ReadText) : Parse Bool := do
  if ← acceptSymbol "**" then
    if (← name) = "_" || (← continues) then refuse
    return true
  unless ← literal read do
    let (_, attributes) ← dotted
    unless attributes do refuse
  expectSymbol ":"
  p
  return false

def mapping (read : ReadText) : Parse Unit := do
  unless ← acceptSymbol "\x7d" do
    let (items, _) ← commaList (isSymbol "\x7d") (mappingItem p read)
    if items.dropLast.any id then refuse
    expectSymbol "\x7d"

/-- An argument of a class pattern; the flag says that it is given by name. -/
def argument : Parse Bool := do
  match ← peek, ← peekSecond with
  | some (.name _), some (.symbol "=") =>
    advance; advance
    p
    return true
  | _, _ =>
    p
    return false

/-- Arguments of a class pattern, those by name last. -/
def arguments : Parse Unit := do
  unless ← acceptSymbol ")" do
    let (named, _) ← commaList (isSymbol ")") (argument p)
    if (named.dropWhile (!·)).any (!·) then refuse
    expectSymbol ")"

def closed (read : ReadText) : Parse Unit := do
  if ← literal read then return
  match ← peek with
  | some (.name _) =>
    let _ ← dotted
    if ← acceptSymbol "(" then arguments p
    else if ← isSymbol "=" then refuse
  | some (.symbol "(") => advance; grouped p
  | some (.symbol "[") => advance; sequence p "]"
  | some (.symbol "\x7b") => advance; mapping p read
  | _ => refuse

/-- Alternatives, perhaps bound to a name. -/
def full (read : ReadText) : Parse Unit := do
  closed p read
  let _ ← many do
    if ← acceptSymbol "|" then
      closed p read
      return some ()
    else return none
  if ← acceptKeyword "as" then
    let id ← name
    if id = "_" || (← continues) then refuse

end

/-- A pattern of bounded nesting. -/
def ofDepth (read : ReadText) : Nat → Parse Unit
  | 0 => refuse
  | n + 1 => fun ts => full (ofDepth read n) read ts

/-- The pattern of a case: one, or a sequence without brackets. -/
def top (read : ReadText) : Parse Unit := do
  let p := ofDepth read ((← budget) + 1)
  let starred ← isSymbol "*"
  sequenceItem p
  if ← acceptSymbol "," then
    unless (← isSymbol ":") || (← isKeyword "if") do
      let ends : Parse Bool := do return (← isSymbol ":") || (← isKeyword "if")
      let _ ← commaList ends (sequenceItem p)
  else if starred then refuse

end CasePattern
end Exposure.Source.Parser
