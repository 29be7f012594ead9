import Exposure.Source.Token.Number
import Exposure.Text.Compatibility

/-!
Cutting a source text into tokens. Indentation is measured in two ways, tabs counted to multiples
of eight and as one; the two must agree on every comparison. Inside brackets line ends and
indentation mean nothing.
-/
namespace Exposure.Source.Lexer

/-- How far a line is indented. -/
structure Column where
  /-- Tabs go to the next multiple of eight. -/
  wide : Nat := 0
  /-- Tabs count one. -/
  narrow : Nat := 0
  deriving DecidableEq

/-- The blocks that are open, innermost first, and the brackets, innermost first. -/
structure Layout where
  indents : List Column := []
  brackets : List Char := []

/-- Most brackets open at a time. -/
def bracketLimit : Nat := 200

/-- Most blocks open at a time. -/
def indentLimit : Nat := 99

/-- The indentation of a line and what follows it. A line that goes on behind a backslash keeps
the column of the first backslash, unless it is zero. -/
def indentation? (fixed : Nat) (c : Column) : List Char → Option (Column × List Char)
  | ' ' :: r => indentation? fixed ⟨c.wide + 1, c.narrow + 1⟩ r
  | '\t' :: r => indentation? fixed ⟨(c.wide / 8 + 1) * 8, c.narrow + 1⟩ r
  | '\x0c' :: r => indentation? fixed {} r
  | '\\' :: '\n' :: r =>
    if r.isEmpty then none else indentation? (if fixed = 0 then c.wide else fixed) c r
  | '\\' :: _ => none
  | s => some (if fixed = 0 then c else ⟨fixed, fixed⟩, s)

/-- The change of indentation at the start of a line. -/
def changeIndent? (indents : List Column) (c : Column) : Option (List Column × List Token) :=
  let top := indents.headD {}
  if c.wide = top.wide then if c.narrow = top.narrow then some (indents, []) else none
  else if top.wide < c.wide then
    if indents.length < indentLimit ∧ top.narrow < c.narrow then some (c :: indents, [.indent])
    else none
  else
    let closed := indents.takeWhile (c.wide < ·.wide)
    let kept := indents.dropWhile (c.wide < ·.wide)
    if kept.headD {} = c then some (kept, closed.map fun _ => .dedent) else none

def isQuote (c : Char) : Bool := c = '"' || c = '\''

/-- The form that letters directly before a quote give to a string. -/
def formOf? (letters : List Char) : Option StringForm :=
  match String.ofList (letters.map Char.toLower) with
  | "" => some {}
  | "r" => some { raw := true }
  | "u" => some {}
  | "b" => some { bytes := true }
  | "f" => some { formatted := true }
  | "br" => some { raw := true, bytes := true }
  | "rb" => some { raw := true, bytes := true }
  | "fr" => some { raw := true, formatted := true }
  | "rf" => some { raw := true, formatted := true }
  | _ => none

/-- The body of a string up to its closing quotes; `done` holds what was passed, in reverse. -/
def stringBody? (quote : Char) (triple : Bool) (done : List Char) :
    List Char → Option (List Char × List Char)
  | [] => none
  | '\\' :: c :: r => stringBody? quote triple (c :: '\\' :: done) r
  | c :: r =>
    if c = quote then
      if !triple then some (done.reverse, r)
      else match r with
        | a :: b :: r' =>
          if a = quote ∧ b = quote then some (done.reverse, r')
          else stringBody? quote triple (c :: done) (a :: b :: r')
        | r => stringBody? quote triple (c :: done) r
    else if c = '\n' ∧ !triple then none
    else stringBody? quote triple (c :: done) r

/-- A string that begins with its opening quote. -/
def string? (form : StringForm) : List Char → Option (Token × List Char)
  | a :: b :: c :: r =>
    if b = a ∧ c = a then finish (stringBody? a true [] r)
    else if b = a then some (.string form [], c :: r)
    else finish (stringBody? a false [] (b :: c :: r))
  | [a, b] => if a = b then some (.string form [], []) else none
  | _ => none
where
  finish (found : Option (List Char × List Char)) : Option (Token × List Char) :=
    found.map fun p => (.string form p.1, p.2)

/-- The token of a word; none if a character of it can stand in no name. -/
def word? (letters : List Char) : Option Token :=
  let text := String.ofList letters
  if keywords.contains text then some (.keyword text)
  else
    match letters with
    | c :: r =>
      if Text.isIdentifierStart c && r.all Text.isIdentifierContinue then
        some (.name (String.ofList (Text.compatible letters)))
      else none
    | [] => none

/-- The symbol at the start of a text. -/
def symbol? (s : List Char) : Option (String × List Char) :=
  (symbols.find? fun t => t.toList.isPrefixOf s).map fun t => (t, s.drop t.length)

/-- The bracket that closes an opening one. -/
def closing? : String → Option Char
  | "(" => some ')'
  | "[" => some ']'
  | "\x7b" => some '\x7d'
  | _ => none

/-- Opens or closes a bracket, or leaves the brackets as they are. -/
def changeBrackets? (brackets : List Char) (symbol : String) : Option (List Char) :=
  match closing? symbol with
  | some c => if brackets.length < bracketLimit then some (c :: brackets) else none
  | none =>
    if [")", "]", "\x7d"].contains symbol then
      match brackets with
      | c :: r => if symbol = String.singleton c then some r else none
      | [] => none
    else some brackets

mutual

/-- The tokens from the start of a line on. -/
def line (fuel : Nat) (l : Layout) (s : List Char) : Option (List Token) :=
  match fuel with
  | 0 => none
  | fuel + 1 => do
    let (c, r) ← indentation? 0 {} s
    match r with
    | [] => some (l.indents.map fun _ => .dedent)
    | '\n' :: r' => line fuel l r'
    | '#' :: _ => line fuel l ((r.dropWhile (· ≠ '\n')).drop 1)
    | r =>
      let (indents, tokens) ← changeIndent? l.indents c
      (words fuel { l with indents } r).map (tokens ++ ·)

/-- The tokens from the middle of a line on. -/
def words (fuel : Nat) (l : Layout) (s : List Char) : Option (List Token) :=
  match fuel with
  | 0 => none
  | fuel + 1 =>
    match s with
    | [] => if l.brackets.isEmpty then some (l.indents.map fun _ => .dedent) else none
    | '\n' :: r =>
      if l.brackets.isEmpty then (line fuel l r).map (.newline :: ·) else words fuel l r
    | '#' :: r => words fuel l (r.dropWhile (· ≠ '\n'))
    | '\\' :: '\n' :: r => if r.isEmpty then none else words fuel l r
    | c :: r =>
      if c = ' ' ∨ c = '\t' ∨ c = '\x0c' then words fuel l r
      else if c.isDigit || (c = '.' && (r.head?).any Char.isDigit) then do
        let (n, rest) ← Number.read? s
        (words fuel l rest).map (.number n :: ·)
      else if isQuote c then do
        let (t, rest) ← string? {} s
        (words fuel l rest).map (t :: ·)
      else if Number.isNameCharacter c then
        let letters := s.takeWhile Number.isNameCharacter
        let rest := s.dropWhile Number.isNameCharacter
        match formOf? letters, (rest.head?).any isQuote with
        | some form, true => do
          let (t, rest') ← string? form rest
          (words fuel l rest').map (t :: ·)
        | _, _ => do
          let t ← word? letters
          (words fuel l rest).map (t :: ·)
      else do
        let (t, rest) ← symbol? s
        let brackets ← changeBrackets? l.brackets t
        (words fuel { l with brackets } rest).map (.symbol t :: ·)

end

/-- The text with unified line breaks, the last line ended. -/
def prepared (s : List Char) : List Char :=
  let t := Text.unifyLineBreaks s
  if t.isEmpty || t.getLast? = some '\n' then t else t ++ ['\n']

/-- The tokens of a source text, if it has only such. -/
def tokens? (source : String) : Option (List Token) :=
  let s := prepared source.toList
  if s.contains (Char.ofNat 0) then none else line (2 * s.length + 2) {} s

end Exposure.Source.Lexer
