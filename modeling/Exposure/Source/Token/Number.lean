import Exposure.Json.Reader
import Exposure.Source.Syntax
import Exposure.Text.Letter

/-!
Numbers of a source text. Single underscores may stand between digits; a decimal integer other
than zero has no leading zeros; no name may follow directly, a few words apart that can only
continue an expression.
-/
namespace Exposure.Source.Number

/-- Most digits of a decimal integer. -/
def digitLimit : Nat := 4300

/-- A run of digits in which single underscores may stand; none if an underscore ends it. -/
def groupedTail? (digit : Char → Bool) (fuel : Nat) (s : List Char) :
    Option (List Char × List Char) :=
  match fuel, s with
  | fuel + 1, '_' :: d :: r =>
    if digit d then (groupedTail? digit fuel r).map fun p => (d :: p.1, p.2) else none
  | fuel + 1, d :: r =>
    if d = '_' then none
    else if digit d then (groupedTail? digit fuel r).map fun p => (d :: p.1, p.2)
    else some ([], s)
  | _, s => some ([], s)

/-- A run of decimal digits, if one begins here. -/
def decimals? (s : List Char) : Option (List Char × List Char) :=
  match s with
  | d :: r => if d.isDigit then (groupedTail? Char.isDigit r.length r).map fun p => (d :: p.1, p.2)
    else some ([], s)
  | [] => some ([], [])

/-- May stand in a name. -/
def isNameCharacter (c : Char) : Bool := c = '_' || c.isAlphanum || 128 ≤ c.toNat

/-- Words that may follow a number directly. -/
def followers : List String := ["and", "else", "for", "if", "in", "is", "or", "not"]

/-- Nothing that follows a number makes it part of a name. -/
def endsWell (s : List Char) : Bool :=
  followers.any (fun w => w.toList.isPrefixOf s) || !(s.head?).any isNameCharacter

/-- Digits of a base behind its letter, an underscore allowed before the first. -/
def based? (base : Nat) (digit : Char → Bool) (s : List Char) : Option (Number × List Char) := do
  let s := match s with
    | '_' :: r => r
    | r => r
  match s with
  | d :: r =>
    if digit d then
      let (ds, rest) ← groupedTail? digit r.length r
      if (rest.head?).any Char.isDigit || !endsWell rest then none
      else some (.int ((d :: ds).foldl (fun n c => base * n + (Json.Reader.hexValue? c).getD 0) 0),
        rest)
    else none
  | [] => none

/-- An exponent, if one begins here: its letter needs a digit behind it or behind its sign. -/
def exponent? (s : List Char) : Option (Option Int × List Char) :=
  match s with
  | e :: sign :: r =>
    if e ≠ 'e' ∧ e ≠ 'E' then some (none, s)
    else if sign = '+' ∨ sign = '-' then do
      let (ds, rest) ← decimals? r
      if ds.isEmpty then none
      else
        let n : Int := Json.Reader.natOfDigits ds
        some (some (if sign = '-' then -n else n), rest)
    else do
      let (ds, rest) ← decimals? (sign :: r)
      if ds.isEmpty then some (none, s)
      else some (some (Json.Reader.natOfDigits ds : Int), rest)
  | s => some (none, s)

/-- A number in base ten: whole digits, a fraction, an exponent and the mark of an imaginary one. -/
def decimal? (s : List Char) : Option (Number × List Char) := do
  let (whole, r) ← decimals? s
  let (point, fraction, r) ← match r with
    | '.' :: r' => do
      let (ds, r'') ← decimals? r'
      some (true, ds, r'')
    | r => some (false, [], r)
  let (exponent, r) ← exponent? r
  let n := Json.Reader.natOfDigits (whole ++ fraction)
  let real := Double.ofDecimal? false n (exponent.getD 0 - fraction.length)
  match r with
  | c :: r' =>
    if c = 'j' ∨ c = 'J' then
      if endsWell r' then some (.imaginary real, r') else none
    else finish point whole exponent n real r
  | [] => finish point whole exponent n real []
where
  finish (point : Bool) (whole : List Char) (exponent : Option Int) (n : Nat)
      (real : Option Double) (r : List Char) : Option (Number × List Char) :=
    if !endsWell r then none
    else if point || exponent.isSome then some (.float real, r)
    else if whole.length > digitLimit then none
    else if whole.head? = some '0' && n ≠ 0 then none
    else some (.int n, r)

/-- The number at the start of a text that begins with a digit, or with a point and a digit. -/
def read? (s : List Char) : Option (Number × List Char) :=
  match s with
  | '0' :: c :: r =>
    if c = 'x' ∨ c = 'X' then based? 16 (fun d => (Json.Reader.hexValue? d).isSome) r
    else if c = 'o' ∨ c = 'O' then based? 8 (fun d => '0' ≤ d && d ≤ '7') r
    else if c = 'b' ∨ c = 'B' then based? 2 (fun d => d = '0' || d = '1') r
    else decimal? s
  | s => decimal? s

end Exposure.Source.Number
