import Exposure.ModuleName
import Exposure.Text.Letter

/-!
The classes that a source text declares at its top level. The outline of a text stands in for a
parser: it is found without reading the rest in full, so that a text with mistakes in it has one
too, which need not be what a parser makes of the mistakes. A text is taken as a list of logical
lines, each with its indentation; a line that ends in a colon opens a block for the lines behind
it that are indented further.
-/
namespace Exposure.Source.Outline

/-- A logical line: what is left of it without comments and the inside of strings. -/
structure Line where
  indent : Nat
  text : List Char
  deriving DecidableEq

/-- White space between words; three characters that have no width belong to it. -/
def isBlank (c : Char) : Bool :=
  Text.isBlank c || c = '\ufeff' || c = '\u2060' || c = '\u200b'

/-- The rest behind a string of three quotes. -/
def skipBlock (quote : Char) : List Char → List Char
  | [] => []
  | '\\' :: _ :: r => skipBlock quote r
  | c :: r => if c = quote && [quote, quote].isPrefixOf r then r.drop 2 else skipBlock quote r

/-- The rest behind a string of one quote; the line's end ends it too. -/
def skipString (quote : Char) : List Char → List Char
  | [] => []
  | '\\' :: _ :: r => skipString quote r
  | '\n' :: r => '\n' :: r
  | c :: r => if c = quote then r else skipString quote r

/-- The words that begin a definition, and so never stand inside brackets. -/
def beginsDefinition (s : List Char) : Bool :=
  let s := s.dropWhile fun c => c = ' ' || c = '\t'
  ["class", "def"].any fun w =>
    w.toList.isPrefixOf s && ((s.drop w.length).head?).any isBlank

/-- Passes over a logical line: its text in reverse and the rest behind it. Brackets join physical
lines, unless a definition begins in them. The fuel bounds the characters. -/
def passLine (fuel : Nat) (brackets : Nat) (done : List Char) (s : List Char) :
    List Char × List Char :=
  match fuel, s with
  | 0, s => (done, s)
  | _, [] => (done, [])
  | fuel + 1, '\n' :: r =>
    if brackets = 0 || beginsDefinition r then (done, r) else passLine fuel brackets (' ' :: done) r
  | fuel + 1, '\\' :: '\n' :: r => passLine fuel brackets (' ' :: done) r
  | fuel + 1, '\\' :: '\r' :: '\n' :: r => passLine fuel brackets (' ' :: done) r
  | fuel + 1, '#' :: r => passLine fuel brackets done (r.dropWhile (· ≠ '\n'))
  | fuel + 1, c :: r =>
    if c = '"' ∨ c = '\'' then
      let rest := if [c, c].isPrefixOf r then skipBlock c (r.drop 2) else skipString c r
      passLine fuel brackets (c :: done) rest
    else
      let brackets :=
        if ['(', '[', '\x7b'].contains c then brackets + 1
        else if [')', ']', '\x7d'].contains c then brackets - 1
        else brackets
      passLine fuel brackets (c :: done) r

/-- The indentation at a line's start and what follows it; a tab counts eight. -/
def indentation (n : Nat) : List Char → Nat × List Char
  | ' ' :: r => indentation (n + 1) r
  | '\t' :: r => indentation (n + 8) r
  | '\r' :: r => indentation 0 r
  | '\x0c' :: r => indentation 0 r
  | s => (n, s)

/-- The logical lines of a text that are not blank. -/
def linesWithin (fuel : Nat) (s : List Char) : List Line :=
  match fuel, s with
  | 0, _ => []
  | _, [] => []
  | fuel + 1, s =>
    let (indent, r) := indentation 0 s
    let (text, rest) := passLine (r.length + 1) 0 [] r
    if text.all isBlank then linesWithin fuel rest
    else ⟨indent, text.reverse.dropWhile isBlank⟩ :: linesWithin fuel rest

def lines (source : String) : List Line :=
  linesWithin (source.length + 1) source.toList

/-- The line ends in a colon. -/
def Line.opensBlock (l : Line) : Bool := (l.text.reverse.dropWhile isBlank).head? = some ':'

/-- The name behind the word that begins a class. -/
def Line.className? (l : Line) : Option String :=
  let word := "class".toList
  if word.isPrefixOf l.text then
    let r := l.text.drop word.length
    let name := r.dropWhile isBlank
    match name with
    | c :: _ =>
      if (r.head?).any isBlank && Text.isIdentifierStart c then
        some (String.ofList (name.takeWhile Text.isIdentifierContinue))
      else none
    | [] => none
  else none

/-- The lines outside of all blocks. `indents` are those of the open blocks, innermost first;
`opened` tells that the line before opens one. -/
def topLevel (indents : List Nat) (opened : Bool) : List Line → List Line
  | [] => []
  | l :: ls =>
    let indents :=
      if opened && indents.headD 0 < l.indent then l.indent :: indents
      else indents.dropWhile (l.indent < ·)
    let rest := topLevel indents l.opensBlock ls
    if indents.isEmpty then l :: rest else rest

/-- The classes declared at the top level, in order. -/
def classNames (source : String) : List String :=
  (topLevel [] false (lines source)).filterMap Line.className?

/-- The names that seem to be declared as classes somewhere, judged by the starts of lines alone:
blanks, the word, white space and a name that begins with an ASCII letter. -/
def mentions (fuel : Nat) (s : List Char) : List String :=
  match fuel with
  | 0 => []
  | fuel + 1 =>
    let nextLine (r : List Char) : List String :=
      match r.dropWhile (· ≠ '\n') with
      | _ :: rest => mentions fuel rest
      | [] => []
    let r := s.dropWhile fun c => c = ' ' || c = '\t'
    let word := "class".toList
    if word.isPrefixOf r then
      let behind := r.drop word.length
      let name := behind.dropWhile Text.isBlank
      match name with
      | c :: _ =>
        if (behind.head?).any Text.isBlank && (c = '_' || c.isAlpha) then
          String.ofList (name.takeWhile Text.isWord) :: nextLine (name.dropWhile Text.isWord)
        else nextLine s
      | [] => nextLine s
    else nextLine s

/-- The name is that of the file, folded. -/
def isNamedAfter (fileName name : String) : Bool :=
  ModuleName.folded name = ModuleName.folded (ModuleName.stem fileName)

/-- The first of the names that a parser lists for a text that is named after the file. The text is
searched for a likely name first. -/
def declaredClassNameBy (names : List String) (fileName source : String) : Option String :=
  if (mentions (source.length + 1) source.toList).any (isNamedAfter fileName) then
    names.find? (isNamedAfter fileName)
  else none

/-- The class declared at the top level that is named after the file. -/
def declaredClassName (fileName source : String) : Option String :=
  declaredClassNameBy (classNames source) fileName source

end Exposure.Source.Outline
