import Exposure.Json.Reader
import Exposure.Text.Split

/-!
The values of a TOML document that hold no others: strings in their four forms, numbers, dates and
times. No setting takes a date, a time or a number that is not finite; they are read as null.
-/
namespace Exposure.Toml

/-- Why a text is no document. -/
inductive Refusal where
  | malformed
  /-- A decimal integer has more digits than are read. -/
  | longInteger
  deriving DecidableEq

/-- A reader of text: what was read and what is left, or why the text is refused. -/
abbrev Read := StateT (List Char) (Except Refusal)

namespace Read

/-- The text that is left. -/
def rest : Read (List Char) := get

def refuse {α : Type} : Read α := throw .malformed

/-- A value that has to be there. -/
def demand {α : Type} (a? : Option α) : Read α := a?.elim refuse pure

/-- What a function takes off the text. -/
def take {α : Type} (read? : List Char → Option (α × List Char)) : Read α := do
  let (a, r) ← demand (read? (← rest))
  set r
  return a

/-- Passes over the longest run of characters of a kind. -/
def run (p : Char → Bool) : Read (List Char) := fun s => .ok (s.takeWhile p, s.dropWhile p)

/-- Passes over a text if it comes next. -/
def accept (t : String) : Read Bool := fun s =>
  if t.toList.isPrefixOf s then .ok (true, s.drop t.length) else .ok (false, s)

/-- Demands a text. -/
def expect (t : String) : Read Unit := do
  unless ← accept t do refuse

end Read

open Read

def isBlank (c : Char) : Bool := c = ' ' || c = '\t'

def isBlankOrNewline (c : Char) : Bool := isBlank c || c = '\n'

/-- Control characters, which no comment and no one-line string may hold. A tab is none here. -/
def isControl (c : Char) : Bool := (c.toNat < 32 && c ≠ '\t') || c.toNat = 127

def skipBlanks : Read Unit := do
  let _ ← run isBlank

def hexNumber? (ds : List Char) : Option Nat :=
  ds.foldlM (fun n d => (Json.Reader.hexValue? d).map (16 * n + ·)) 0

/-- A character given by its number in `width` hexadecimal digits. -/
def hexCharacter? (width : Nat) (s : List Char) : Option (Char × List Char) := do
  let ds := s.take width
  if ds.length < width then none
  let n ← hexNumber? ds
  if n < 0xD800 ∨ 0xDFFF < n ∧ n < 0x110000 then some (Char.ofNat n, s.drop width) else none

/-- The rest after a backslash that ends a line: the blanks and line breaks behind it are passed
over. None if something else is on the line. -/
def foldLine? (s : List Char) : Option (List Char) :=
  match s.dropWhile isBlank with
  | [] => some []
  | '\n' :: r => some (r.dropWhile isBlankOrNewline)
  | _ => none

def simpleEscape? : Char → Option Char
  | 'b' => some (Char.ofNat 8)
  | 't' => some '\t'
  | 'n' => some '\n'
  | 'f' => some (Char.ofNat 12)
  | 'r' => some '\r'
  | '"' => some '"'
  | '\\' => some '\\'
  | _ => none

/-- A string with escapes after its opening quotes; `done` holds what was read, in reverse. -/
def basicBody? (multiline : Bool) (fuel : Nat) (done : List Char) (s : List Char) :
    Option (List Char × List Char) :=
  match fuel with
  | 0 => none
  | fuel + 1 =>
    match s with
    | [] => none
    | '"' :: r =>
      if !multiline then some (done.reverse, r)
      else match r with
        | '"' :: '"' :: r' => some (done.reverse, r')
        | _ => basicBody? multiline fuel ('"' :: done) r
    | '\\' :: c :: r =>
      if multiline && isBlankOrNewline c then
        (foldLine? (c :: r)).bind (basicBody? multiline fuel done)
      else if c = 'u' then
        (hexCharacter? 4 r).bind fun p => basicBody? multiline fuel (p.1 :: done) p.2
      else if c = 'U' then
        (hexCharacter? 8 r).bind fun p => basicBody? multiline fuel (p.1 :: done) p.2
      else (simpleEscape? c).bind fun d => basicBody? multiline fuel (d :: done) r
    | c :: r =>
      if isControl c && !(multiline && c = '\n') then none
      else basicBody? multiline fuel (c :: done) r

/-- A string without escapes after its opening quotes. -/
def literalBody? (multiline : Bool) (s : List Char) : Option (List Char × List Char) := do
  let (body, r) ← Text.cutFirst (if multiline then ['\'', '\'', '\''] else ['\'']) s
  if body.any fun c => isControl c && !(multiline && c = '\n') then none else some (body, r)

/-- Up to two quotes directly behind the closing ones belong to the string. -/
def extraQuotes (quote : Char) (s : List Char) : List Char × List Char :=
  let n := min 2 (s.takeWhile (· = quote)).length
  (s.take n, s.drop n)

/-- A one-line string. -/
def lineString? : List Char → Option (String × List Char)
  | '"' :: r => (basicBody? false (r.length + 1) [] r).map fun p => (String.ofList p.1, p.2)
  | '\'' :: r => (literalBody? false r).map fun p => (String.ofList p.1, p.2)
  | _ => none

/-- A string over several lines, after its opening quotes. A line break at its start is dropped. -/
def blockString? (quote : Char) (s : List Char) : Option (String × List Char) := do
  let s := match s with
    | '\n' :: r => r
    | r => r
  let (body, r) ← if quote = '"' then basicBody? true (s.length + 1) [] s else literalBody? true s
  let (extra, r) := extraQuotes quote r
  some (String.ofList (body ++ extra), r)

/-- A string in any of the four forms. -/
def string? : List Char → Option (String × List Char)
  | '"' :: '"' :: '"' :: r => blockString? '"' r
  | '\'' :: '\'' :: '\'' :: r => blockString? '\'' r
  | s => lineString? s

/-- A number of exactly so many decimal digits within bounds. -/
def fixed? (width low high : Nat) (s : List Char) : Option (Nat × List Char) :=
  let ds := s.take width
  let n := Json.Reader.natOfDigits ds
  if ds.length = width ∧ ds.all Char.isDigit ∧ low ≤ n ∧ n ≤ high then some (n, s.drop width)
  else none

def charOf? (cs : List Char) : List Char → Option (Char × List Char)
  | c :: r => if cs.contains c then some (c, r) else none
  | [] => none

/-- The rest after a time of day. -/
def time? (s : List Char) : Option (List Char) := do
  let (_, s) ← fixed? 2 0 23 s
  let (_, s) ← charOf? [':'] s
  let (_, s) ← fixed? 2 0 59 s
  let (_, s) ← charOf? [':'] s
  let (_, s) ← fixed? 2 0 59 s
  match s with
  | '.' :: r => if (r.head?).any Char.isDigit then some (r.dropWhile Char.isDigit) else some s
  | _ => some s

/-- The rest after a time zone, if there is one. -/
def zone (s : List Char) : List Char :=
  match charOf? ['Z', 'z'] s with
  | some (_, r) => r
  | none =>
    let offset? : Option (List Char) := do
      let (_, s) ← charOf? ['+', '-'] s
      let (_, s) ← fixed? 2 0 23 s
      let (_, s) ← charOf? [':'] s
      let (_, s) ← fixed? 2 0 59 s
      some s
    offset?.getD s

def isLeapYear (year : Nat) : Bool := year % 4 = 0 && (year % 100 ≠ 0 || year % 400 = 0)

def daysOfMonth (year month : Nat) : Nat :=
  if month = 2 then (if isLeapYear year then 29 else 28)
  else if [4, 6, 9, 11].contains month then 30 else 31

/-- The rest after a date, with or without a time, and whether the calendar knows the day. -/
def date? (s : List Char) : Option (List Char × Bool) := do
  let (year, s) ← fixed? 4 0 9999 s
  let (_, s) ← charOf? ['-'] s
  let (month, s) ← fixed? 2 1 12 s
  let (_, s) ← charOf? ['-'] s
  let (day, s) ← fixed? 2 1 31 s
  let known := 0 < year && day ≤ daysOfMonth year month
  let timed? : Option (List Char) := do
    let (_, s) ← charOf? ['T', 't', ' '] s
    some (zone (← time? s))
  some (timed?.getD s, known)

/-- Digits of a kind, single underscores allowed between them. -/
def grouped (digit : Char → Bool) (fuel : Nat) (s : List Char) : List Char × List Char :=
  match fuel, s with
  | fuel + 1, '_' :: d :: r =>
    if digit d then let (ds, r') := grouped digit fuel r; (d :: ds, r') else ([], s)
  | fuel + 1, d :: r =>
    if digit d then let (ds, r') := grouped digit fuel r; (d :: ds, r') else ([], s)
  | _, s => ([], s)

/-- At least one digit, the first without an underscore before it. -/
def groupedDigits? (digit : Char → Bool) : List Char → Option (List Char × List Char)
  | d :: r =>
    if digit d then let (ds, r') := grouped digit r.length r; some (d :: ds, r') else none
  | [] => none

def isHexDigit (c : Char) : Bool := (Json.Reader.hexValue? c).isSome

/-- An integer in base 16, 2 or 8. -/
def basedInteger? : List Char → Option (Json × List Char)
  | '0' :: 'x' :: r => read 16 isHexDigit r
  | '0' :: 'b' :: r => read 2 (fun c => c = '0' || c = '1') r
  | '0' :: 'o' :: r => read 8 (fun c => '0' ≤ c && c ≤ '7') r
  | _ => none
where
  read (base : Nat) (digit : Char → Bool) (r : List Char) : Option (Json × List Char) :=
    (groupedDigits? digit r).map fun (ds, r') =>
      (.int (ds.foldl (fun n d => base * n + ((Json.Reader.hexValue? d).getD 0)) 0), r')

/-- A sign, if there is one. -/
def sign (s : List Char) : Bool × List Char :=
  match s with
  | '-' :: r => (true, r)
  | '+' :: r => (false, r)
  | r => (false, r)

/-- A decimal integer or a number with a point or an exponent. -/
def decimal? (s : List Char) : Option (Json × List Char) := do
  let (negative, r) := sign s
  let (whole, r) ← match r with
    | '0' :: r => some (['0'], r)
    | r => groupedDigits? Char.isDigit r
  let (fraction, r) := match r with
    | '.' :: r' => (groupedDigits? Char.isDigit r').getD ([], r)
    | _ => ([], r)
  let exponent? : Option (Int × List Char) := do
    let (_, r) ← charOf? ['e', 'E'] r
    let (negative, r) := sign r
    let (ds, r) ← groupedDigits? Char.isDigit r
    let n : Int := Json.Reader.natOfDigits ds
    some (if negative then -n else n, r)
  let n := Json.Reader.natOfDigits (whole ++ fraction)
  if fraction.isEmpty && exponent?.isNone then some (.int (if negative then -(n : Int) else n), r)
  else
    let (e, r) := exponent?.getD (0, r)
    match Double.ofDecimal? negative n (e - fraction.length) with
    | some x => some (.float x, r)
    | none => some (.null, r)

/-- A number without a value on the line of numbers. -/
def special? (s : List Char) : Option (Json × List Char) :=
  let (_, r) := sign s
  if "inf".toList.isPrefixOf r || "nan".toList.isPrefixOf r then some (.null, r.drop 3) else none

/-- Decimal integers are read below this bound, that is with up to 4300 digits. -/
def integerBound : Nat := Nat.pow 10 4300

/-- A number. An integer in another base may have any number of digits. -/
def number (s : List Char) : Except Refusal (Json × List Char) :=
  match basedInteger? s, decimal? s, special? s with
  | some p, _, _ => .ok p
  | none, some (.int n, r), _ =>
    if n.natAbs < integerBound then .ok (.int n, r) else .error .longInteger
  | none, some p, _ => .ok p
  | none, none, some p => .ok p
  | none, none, none => .error .malformed

/-- A date, a time or a number. -/
def plain : Read Json := fun s =>
  match date? s with
  | some (r, known) => if known then .ok (.null, r) else .error .malformed
  | none =>
    match time? s with
    | some r => .ok (.null, r)
    | none => number s

end Exposure.Toml
