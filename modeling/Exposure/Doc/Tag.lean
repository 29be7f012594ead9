import Exposure.Pattern.Matcher
import Exposure.Text.Split

/-!
Documentation text as it is read, and the tags in it. Tabs are expanded, the indentation that all
lines but the first have in common is taken away, and empty lines at both ends are dropped. A tag is
a match of a pattern: at the start of a line, behind blanks and at most one star, `@` and a name,
which is taken in lowercase, and a value up to the blanks that end a line. A value in matching
quotes is taken out of them.
-/
namespace Exposure.Doc

/-- Expands tabs to the next column that eight divides; a line's end begins a new count. -/
def expandTabs (column : Nat) : List Char → List Char
  | [] => []
  | '\t' :: r =>
    let width := 8 - column % 8
    List.replicate width ' ' ++ expandTabs (column + width) r
  | c :: r => c :: expandTabs (if c = '\n' ∨ c = '\r' then 0 else column + 1) r

/-- The width of a line's leading blanks, if the line has anything else. -/
def indentation? (line : List Char) : Option Nat :=
  if line.all Text.isBlank then none else some (line.takeWhile Text.isBlank).length

/-- The lines without what all but the first are indented by. -/
def withoutMargin : List (List Char) → List (List Char)
  | [] => []
  | first :: rest =>
    let margin := (rest.filterMap indentation?).min?.getD 0
    first.dropWhile Text.isBlank :: rest.map (List.drop margin)

/-- The text as it is read. -/
def clean (doc : String) : String :=
  let lines := withoutMargin (Text.splitAt '\n' (expandTabs 0 doc.toList))
  let lines := (lines.dropWhile List.isEmpty).reverse.dropWhile List.isEmpty |>.reverse
  String.ofList (Text.joinWith ['\n'] lines)

open Pattern

/-- A tag's name and value. -/
abbrev Tag := String × String

/-- The pattern of a tag, with its name and its value as groups. -/
def tagPattern : Regex :=
  (parse? { multiline := true } "^\\s*\\*?\\s*@([A-Za-z_][\\w-]*)[ \\t]*(.*?)\\s*$").getD .empty

/-- The pattern of a value in a pair of quotes, with what stands between them as the second
group. -/
def quotedPattern : Regex := (parse? {} "^([\"'])(.*)\\1$").getD .empty

/-- A value without the quotes around it, if it stands in a pair of equal ones. -/
def unquote (value : List Char) : List Char :=
  match quotedPattern.run value.toArray { position := 0 } some with
  | some m => (m.captured value.toArray 2).getD []
  | none => value

/-- The tag of a match. -/
def tagOf (text : Array Char) (m : Point) : Tag :=
  (String.ofList (Text.lower ((m.captured text 1).getD [])),
    String.ofList (unquote ((m.captured text 2).getD [])))

/-- The tags of a text in order. -/
def tags (doc : String) : List Tag :=
  let text := doc.toList.toArray
  (tagPattern.findAll text).map (tagOf text)

/-- The tags with one of the given names. -/
def tagsNamed (names : List String) (doc : String) : List Tag :=
  (tags doc).filter fun t => names.contains t.1

end Exposure.Doc
