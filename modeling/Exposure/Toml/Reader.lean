import Exposure.Toml.Document
import Exposure.Toml.Scalar

/-!
Reading a TOML document line by line: headers, values under keys, comments. Arrays may run over
several lines and end in a comma; inline tables may do neither.
-/
namespace Exposure.Toml

open Read

def isKeyCharacter (c : Char) : Bool := c.isAlphanum || c = '-' || c = '_'

/-- One part of a dotted key. -/
def keyPart : Read String := do
  match ← rest with
  | c :: _ =>
    if isKeyCharacter c then return String.ofList (← run isKeyCharacter)
    else take lineString?
  | [] => refuse

/-- The parts of a dotted key after the first. -/
def keyParts (fuel : Nat) : Read Key := do
  skipBlanks
  match fuel with
  | 0 => return []
  | fuel + 1 =>
    if ← accept "." then
      skipBlanks
      let part ← keyPart
      return part :: (← keyParts fuel)
    else return []

/-- A dotted key with the blanks behind it. -/
def key : Read Key := do
  let part ← keyPart
  return part :: (← keyParts (← rest).length)

/-- A comment, if one begins here; the line break behind it is left. -/
def skipComment : Read Unit := do
  if ← accept "#" then
    let comment ← run (· ≠ '\n')
    if comment.any isControl then refuse

/-- Blanks, line breaks and comments inside an array. -/
def skipArrayBlanks (fuel : Nat) : Read Unit := do
  let before := (← rest).length
  let _ ← run isBlankOrNewline
  skipComment
  match fuel with
  | 0 => return
  | fuel + 1 => if (← rest).length < before then skipArrayBlanks fuel

mutual

/-- A value. The fuel bounds the length of the text. -/
def value (fuel : Nat) : Read Json := do
  match fuel with
  | 0 => refuse
  | fuel + 1 =>
    match ← rest with
    | '"' :: _ => return .string (← take string?)
    | '\'' :: _ => return .string (← take string?)
    | 't' :: 'r' :: 'u' :: 'e' :: _ => expect "true"; return .bool true
    | 'f' :: 'a' :: 'l' :: 's' :: 'e' :: _ => expect "false"; return .bool false
    | '[' :: _ =>
      expect "["
      skipArrayBlanks (← rest).length
      if ← accept "]" then return .array [] else items fuel []
    | '\x7b' :: _ =>
      expect "\x7b"
      skipBlanks
      if ← accept "\x7d" then return .object [] else inlineMembers fuel {}
    | _ => plain

/-- The items of an array; `done` holds those read, in reverse. -/
def items (fuel : Nat) (done : List Json) : Read Json := do
  match fuel with
  | 0 => refuse
  | fuel + 1 =>
    let v ← value fuel
    skipArrayBlanks (← rest).length
    if ← accept "]" then return .array (v :: done).reverse
    expect ","
    skipArrayBlanks (← rest).length
    if ← accept "]" then return .array (v :: done).reverse
    items fuel (v :: done)

/-- The members of an inline table. -/
def inlineMembers (fuel : Nat) (t : InlineTable) : Read Json := do
  match fuel with
  | 0 => refuse
  | fuel + 1 =>
    let k ← key
    expect "="
    skipBlanks
    let v ← value fuel
    let t ← demand (t.set? k v)
    skipBlanks
    if ← accept "\x7d" then return .object t.members
    expect ","
    skipBlanks
    inlineMembers fuel t

end

/-- What stands on a line before its comment. -/
def statement (d : Document) : Read Document := do
  match ← rest with
  | '[' :: '[' :: _ =>
    expect "[["
    skipBlanks
    let d ← demand (d.endTable.openItem? (← key))
    expect "]]"
    return d
  | '[' :: _ =>
    expect "["
    skipBlanks
    let d ← demand (d.endTable.openTable? (← key))
    expect "]"
    return d
  | c :: _ =>
    if isKeyCharacter c || c = '"' || c = '\'' then
      let k ← key
      expect "="
      skipBlanks
      let v ← value (2 * (← rest).length + 2)
      demand (d.set? k v)
    else return d
  | [] => return d

/-- The lines of a document. -/
def lines (fuel : Nat) (d : Document) : Read Document := do
  skipBlanks
  let d ← statement d
  skipBlanks
  skipComment
  if (← rest).isEmpty then return d
  expect "\n"
  match fuel with
  | 0 => return d
  | fuel + 1 => lines fuel d

/-- Two characters that end a line count as one. -/
def unifyLineBreaks : List Char → List Char
  | '\r' :: '\n' :: r => '\n' :: unifyLineBreaks r
  | c :: r => c :: unifyLineBreaks r
  | [] => []

/-- The members of the document, if the text is one. -/
def ofText (text : String) : Except Refusal Members :=
  let s := unifyLineBreaks text.toList
  (StateT.run (lines s.length {}) s).map fun p => p.1.root

end Exposure.Toml
