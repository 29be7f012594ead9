import Exposure.FileSystem.Resolve
import Exposure.Pattern.Matcher
import Exposure.Text.Split

/-!
Ignore files. A line is turned into a regular expression that is looked for in paths below the
directory of the file. A line that nothing is left of is an error of its own, and a bracket may give
an expression that is none, which shows only when a path is tested.

Without negated rules a path is ignored if any rule matches it; with them the last matching rule
decides. Several files together ignore what any of them ignores, and a file has nothing to say about
paths outside its own directory.
-/
namespace Exposure.Ignore

/-- What is known of a pattern besides its text. -/
structure Shape where
  negated : Bool
  /-- Written with a slash at its end. -/
  directoryOnly : Bool
  /-- Tied to the directory of the ignore file. -/
  anchored : Bool
  text : List Char

structure Rule where
  negated : Bool
  /-- None if the pattern gives no regular expression. -/
  regex : Option Pattern.Regex

/-- Why an ignore file cannot be used. -/
inductive Fault where
  /-- Nothing is left of a pattern. -/
  | emptyPattern
  /-- The file is not UTF-8. -/
  | notText
  /-- A pattern gives no regular expression. -/
  | badExpression
  /-- The path lies outside the directory of the file. -/
  | outside
  deriving DecidableEq

/-- Two or more asterisks behind something other than a slash count as one. -/
def squeezeBehind : List Char → List Char
  | c :: '*' :: '*' :: r =>
    if c = '/' then c :: squeezeBehind ('*' :: '*' :: r)
    else c :: '*' :: squeezeBehind (r.dropWhile (· = '*'))
  | c :: r => c :: squeezeBehind r
  | [] => []
termination_by s => s.length
decreasing_by
  · simp
  · have := (List.dropWhile_sublist (· = '*') (l := r)).length_le
    simp only [List.length_cons]
    omega
  · simp

/-- Two or more asterisks before something other than a slash count as one; `run` asterisks have
just been passed. -/
def squeezeBefore (run : Nat) : List Char → List Char
  | '*' :: r => squeezeBefore (run + 1) r
  | c :: r =>
    (if 2 ≤ run && c ≠ '/' then ['*'] else List.replicate (min run 2) '*') ++ c :: squeezeBefore 0 r
  | [] => List.replicate (min run 2) '*'

/-- Blanks at the end go, up to one behind a backslash; the backslash goes instead. The text comes
in reverse, and its first two characters always stay. -/
def trimEnd (trimming : Bool) (kept : List Char) : List Char → List Char
  | ' ' :: '\\' :: r =>
    if 1 ≤ r.length then trimEnd false (' ' :: kept) r
    else ('\\' :: r).reverse ++ ' ' :: kept
  | ' ' :: r =>
    if 2 ≤ r.length then
      if trimming then trimEnd true kept r else trimEnd false (' ' :: kept) r
    else r.reverse ++ ' ' :: kept
  | r => r.reverse ++ kept

/-- Drops a leading slash. -/
def dropSlash : List Char → List Char
  | '/' :: r => r
  | s => s

/-- The shape of a line's pattern; none for a line that says nothing. -/
def shape? (line : List Char) : Except Fault (Option Shape) := do
  if line.all Text.isBlank || line.head? = some '#' then return none
  let (negated, s) := match line with
    | '!' :: r => (true, r)
    | s => (false, s)
  let s := squeezeBefore 0 (squeezeBehind s)
  if (s.reverse.dropWhile Text.isBlank) = ['/'] then return none
  if s.isEmpty then throw .emptyPattern
  let directoryOnly := s.getLast? = some '/'
  let anchored := s.dropLast.contains '/'
  let (anchored, s) := match dropSlash s with
    | '*' :: '*' :: r => (false, r)
    | s => (anchored, s)
  if s.isEmpty then throw .emptyPattern
  let s := dropSlash s
  if s.isEmpty then throw .emptyPattern
  let s := if s.getLast? = some '/' then s.dropLast else s
  let s ← match s with
    | [] => throw .emptyPattern
    | ['\\'] => throw .emptyPattern
    | '\\' :: c :: r => pure (if c = '#' || c = '!' then c :: r else s)
    | s => pure s
  return some ⟨negated, directoryOnly, anchored, trimEnd true [] s.reverse⟩

/-- Characters that mean something in a regular expression. -/
def isSpecial (c : Char) : Bool :=
  "()[]\x7b\x7d?*+-|^$\\.&~# \t\n\r\x0b\x0c".toList.contains c

/-- The text of a bracket up to its end and the rest behind it. -/
def bracket? (s : List Char) : Option (List Char × List Char) :=
  let (lead, r) := match s with
    | '!' :: r => (['!'], r)
    | r => ([], r)
  let (lead, r) := match r with
    | ']' :: r' => (lead ++ [']'], r')
    | r' => (lead, r')
  match r.dropWhile (· ≠ ']') with
  | [] => none
  | _ :: rest => some (lead ++ r.takeWhile (· ≠ ']'), rest)

/-- The regular expression's set for a bracket's text. -/
def setText (inside : List Char) : Except Fault (List Char) :=
  let s := (inside.filter (· ≠ '/')).flatMap fun c => if c = '\\' then ['\\', '\\'] else [c]
  match s with
  | [] => .error .emptyPattern
  | '!' :: r => .ok ('[' :: '^' :: r ++ [']'])
  | '^' :: r => .ok ('[' :: '\\' :: '^' :: r ++ [']'])
  | s => .ok ('[' :: s ++ [']'])

/-- The regular expression for a pattern's text; the fuel is its length. -/
def expressionWithin (fuel : Nat) (s : List Char) : Except Fault (List Char) := do
  match fuel, s with
  | 0, _ => return []
  | _, [] => return []
  | fuel + 1, '*' :: '*' :: '/' :: r => return "(.*[/])?".toList ++ (← expressionWithin fuel r)
  | fuel + 1, '*' :: '*' :: r => return ".*".toList ++ (← expressionWithin fuel r)
  | fuel + 1, '*' :: r => return "[^/]*".toList ++ (← expressionWithin fuel r)
  | fuel + 1, '?' :: r => return "[^/]".toList ++ (← expressionWithin fuel r)
  | fuel + 1, '/' :: r => return "[/]".toList ++ (← expressionWithin fuel r)
  | fuel + 1, '[' :: r =>
    match bracket? r with
    | some (inside, rest) => return (← setText inside) ++ (← expressionWithin fuel rest)
    | none => return '\\' :: '[' :: (← expressionWithin fuel r)
  | fuel + 1, c :: r =>
    return (if isSpecial c then ['\\', c] else [c]) ++ (← expressionWithin fuel r)

/-- The regular expression for a whole pattern. -/
def Shape.expression (s : Shape) : Except Fault (List Char) := do
  let body ← expressionWithin s.text.length s.text
  let start := if s.anchored then "^" else "(^|[/])"
  let stop := if !s.directoryOnly then "$" else if s.negated then "/$" else "($|\\/)"
  return start.toList ++ body ++ stop.toList

/-- The rule of a line; none for a line that says nothing. -/
def Rule.ofLine? (line : List Char) : Except Fault (Option Rule) := do
  match ← shape? line with
  | none => return none
  | some s =>
    return some ⟨s.negated, Pattern.parse? {} (String.ofList (← s.expression))⟩

/-- The rule matches a path relative to the directory of its file. -/
def Rule.isMatch (r : Rule) (path : String) : Except Fault Bool :=
  match r.regex with
  | some regex => .ok (regex.occursIn path)
  | none => .error .badExpression

/-- The rules of one file and the directory that it stands in. -/
structure File where
  directory : Path
  rules : List Rule

def File.ofText (directory : Path) (text : String) : Except Fault File := do
  let lines := Text.splitAt '\n' (Text.unifyLineBreaks text.toList)
  let rules ← lines.mapM Rule.ofLine?
  return ⟨directory, rules.filterMap id⟩

def File.ofBytes (directory : Path) (bytes : ByteArray) : Except Fault File :=
  match String.fromUTF8? bytes with
  | some text => File.ofText directory text
  | none => .error .notText

/-- The verdict of the first rule that matches, in the order given. -/
def firstVerdict (path : String) : List Rule → Except Fault Bool
  | [] => .ok false
  | r :: rs => do if ← r.isMatch path then return !r.negated else firstVerdict path rs

/-- The file ignores a path. -/
def File.ignores (f : File) (path : Path) : Except Fault Bool :=
  match f.rules, path.relativeTo? f.directory with
  | [], _ => .ok false
  | _ :: _, none => .error .outside
  | rules, some p =>
    firstVerdict p.toString (if rules.any (·.negated) then rules.reverse else rules)

/-- How the ignore file of a directory is read, as a test of paths. -/
abbrev Reader := Path → ByteArray → Except Fault (Path → Except Fault Bool)

/-- The reader that takes the lines of the file for rules. -/
def readRules : Reader := fun directory bytes =>
  (File.ofBytes directory bytes).map File.ignores

/-- Some file ignores the path; those that it lies outside of do not count. -/
def anyIgnores (path : Path) : List (Path → Except Fault Bool) → Except Fault Bool
  | [] => .ok false
  | f :: fs =>
    match f path with
    | .ok true => .ok true
    | .ok false => anyIgnores path fs
    | .error .outside => anyIgnores path fs
    | .error e => .error e

def fileName : String := ".gitignore"

end Exposure.Ignore
