import Exposure.Source.Syntax

/-!
Readers of token lists. A reader takes tokens from the front and gives a result, or refuses; a
choice tries the second reader where the first refuses, from the same place.
-/
namespace Exposure.Source

abbrev Parse := StateT (List Token) Option

namespace Parse

variable {α : Type}

def refuse : Parse α := fun _ => none

/-- The second reader where the first refuses. -/
def either (p q : Parse α) : Parse α := fun ts =>
  match p ts with
  | some r => some r
  | none => q ts

def peek : Parse (Option Token) := fun ts => some (ts.head?, ts)

/-- The token behind the next one. -/
def peekSecond : Parse (Option Token) := fun ts => some (ts[1]?, ts)

def advance : Parse Unit := fun ts => some ((), ts.drop 1)

/-- Takes a token if it comes next. -/
def accept (t : Token) : Parse Bool := fun ts =>
  match ts with
  | u :: r => if u = t then some (true, r) else some (false, ts)
  | [] => some (false, [])

def expect (t : Token) : Parse Unit := do
  unless ← accept t do refuse

def acceptSymbol (s : String) : Parse Bool := accept (.symbol s)

def expectSymbol (s : String) : Parse Unit := expect (.symbol s)

def acceptKeyword (w : String) : Parse Bool := accept (.keyword w)

def expectKeyword (w : String) : Parse Unit := expect (.keyword w)

def isSymbol (s : String) : Parse Bool := do return (← peek) = some (.symbol s)

def isKeyword (w : String) : Parse Bool := do return (← peek) = some (.keyword w)

/-- A name. -/
def name : Parse String := do
  match ← peek with
  | some (.name id) => advance; return id
  | _ => refuse

/-- The number of tokens left, which bounds the rounds of any loop. -/
def budget : Parse Nat := fun ts => some (ts.length, ts)

/-- Reads again and again until there is nothing more. -/
def many (p : Parse (Option α)) : Parse (List α) := do loop (← budget)
where
  loop : Nat → Parse (List α)
    | 0 => return []
    | n + 1 => do
      match ← p with
      | some a => return a :: (← loop n)
      | none => return []

/-- Items with a comma between neighbours and perhaps one at the end. `ends` tells whether what
comes next ends the list; the flag says that there was a comma. -/
def commaList (ends : Parse Bool) (item : Parse α) : Parse (List α × Bool) := do
  loop (← budget)
where
  loop : Nat → Parse (List α × Bool)
    | 0 => refuse
    | n + 1 => do
      let a ← item
      if ← acceptSymbol "," then
        if ← ends then return ([a], true)
        let (rest, _) ← loop n
        return (a :: rest, true)
      else return ([a], false)

/-- The results of all readers in a row with a comma between neighbours, none at the end. -/
def commaSeparated (item : Parse α) : Parse (List α) := do
  let first ← item
  let rest ← many do if ← acceptSymbol "," then return some (← item) else return none
  return first :: rest

end Parse
end Exposure.Source
