/-!
Binary floating point numbers of 64 bits as data. A number is read from its decimal form by exact
rounding, a tie going to the even neighbour, and written with the fewest decimal digits that read
back to it.
-/
namespace Exposure

/-- Two to the power of `n`. -/
def twoTo (n : Nat) : Nat := Nat.pow 2 n

/-- Ten to the power of `n`. -/
def tenTo (n : Nat) : Nat := Nat.pow 10 n

/-- A finite binary number `± mantissa * 2 ^ exponent`, with at most 53 bits in the mantissa and
the exponent never below -1074. -/
structure Double where
  negative : Bool
  mantissa : Nat
  exponent : Int
  deriving DecidableEq, Inhabited

/-- Digits of a decimal number and the place of the point, counted from the first digit. -/
structure Decimal where
  digits : List Char
  point : Int
  deriving DecidableEq

namespace Double

/-- The quotient rounded to the nearest integer, a tie to the even one. -/
def roundDiv (num den : Nat) : Nat :=
  let q := num / den
  let twice := 2 * (num % den)
  if twice < den then q else if den < twice then q + 1 else if q % 2 = 0 then q else q + 1

/-- `num / den * 2 ^ (-shift)` as a fraction. -/
def scale (num den : Nat) (shift : Int) : Nat × Nat :=
  if 0 ≤ shift then (num, den * twoTo shift.toNat) else (num * twoTo (-shift).toNat, den)

/-- The nearest number of the format to a positive fraction; none beyond the largest one. -/
def ofFraction? (negative : Bool) (num den : Nat) : Option Double :=
  if num = 0 then some ⟨negative, 0, -1074⟩
  else
    let guess : Int := (Nat.log2 num : Int) - (Nat.log2 den : Int) - 52
    let (n, d) := scale num den guess
    let fitted : Int :=
      if n < twoTo 52 * d then guess - 1 else if twoTo 53 * d ≤ n then guess + 1 else guess
    let q : Int := max fitted (-1074)
    let (n, d) := scale num den q
    let m := roundDiv n d
    let (m, q) := if m = twoTo 53 then (twoTo 52, q + 1) else (m, q)
    if 971 < q then none else some ⟨negative, m, q⟩

/-- The nearest number to `± mantissa * 10 ^ exponent`; none beyond the largest one. -/
def ofDecimal? (negative : Bool) (mantissa : Nat) (exponent : Int) : Option Double :=
  if mantissa = 0 then some ⟨negative, 0, -1074⟩
  else
    let size : Int := ((Nat.toDigits 10 mantissa).length : Int) + exponent
    if 400 < size then none
    else if size < -400 then some ⟨negative, 0, -1074⟩
    else if 0 ≤ exponent then ofFraction? negative (mantissa * tenTo exponent.toNat) 1
    else ofFraction? negative mantissa (tenTo (-exponent).toNat)

def isZero (x : Double) : Bool := x.mantissa = 0

/-- The number equals this integer. -/
def equalsInt (x : Double) (n : Int) : Bool :=
  let signed : Int := if x.negative then -(x.mantissa : Int) else x.mantissa
  if 0 ≤ x.exponent then signed * twoTo x.exponent.toNat == n
  else signed == n * twoTo (-x.exponent).toNat

/-- The two numbers are equal as values; the zeros are. -/
def sameValue (x y : Double) : Bool := (x.isZero && y.isZero) || x == y

/-- The numbers of the given count of digits next to `num / den`, which lies below `10 ^ point`
and not below a tenth of it, as integers in units of the last place. -/
def neighbours (num den : Nat) (point : Int) (count : Nat) : Nat :=
  let places : Int := count - point
  let (n, d) := if 0 ≤ places then (num * tenTo places.toNat, den)
    else (num, den * tenTo (-places).toNat)
  n / d

/-- Compares `k` units of the last place with `num / den`. -/
def compareUnits (k : Nat) (places : Int) (num den : Nat) : Ordering :=
  if 0 ≤ places then compare (k * den) (num * tenTo places.toNat)
  else compare (k * tenTo (-places).toNat * den) num

/-- The digits with this count that read back, nearest to the value, if there are any. `low` and
`high` bound the numbers that read back, over the same denominator as the value. -/
def digitsOfCount? (low value high den : Nat) (closed : Bool) (point : Int) (count : Nat) :
    Option Nat :=
  let places : Int := count - point
  let inside (k : Nat) : Bool :=
    let l := compareUnits k places low den
    let h := compareUnits k places high den
    (l == .gt || (closed && l == .eq)) && (h == .lt || (closed && h == .eq))
  let below := neighbours value den point count
  match inside below, inside (below + 1) with
  | true, false => some below
  | false, true => some (below + 1)
  | false, false => none
  | true, true =>
    match compareUnits (2 * below + 1) places (2 * value) den with
    | .lt => some (below + 1)
    | .gt => some below
    | .eq => some (if below % 2 = 0 then below else below + 1)

/-- The place of the point of a positive fraction: it lies below `10 ^ point` and not below a
tenth of it. -/
def pointOf (num den : Nat) : Int :=
  if den ≤ num then (Nat.toDigits 10 (num / den)).length
  else
    let d := (Nat.toDigits 10 (den / num)).length - 1
    if den ≤ num * tenTo d then 1 - (d : Int) else -(d : Int)

/-- The fewest digits that read back to the number. -/
def shortest (x : Double) : Decimal :=
  if x.mantissa = 0 then ⟨['0'], 1⟩
  else
    let up (n : Nat) : Nat := if 0 ≤ x.exponent then n * twoTo x.exponent.toNat else n
    let den : Nat := if 0 ≤ x.exponent then 4 else 4 * twoTo (-x.exponent).toNat
    let value := up (4 * x.mantissa)
    let low := up (if x.mantissa = twoTo 52 ∧ -1074 < x.exponent then 4 * x.mantissa - 1
      else 4 * x.mantissa - 2)
    let high := up (4 * x.mantissa + 2)
    let point := pointOf value den
    let found := (List.range 17).findSome? fun i =>
      (digitsOfCount? low value high den (x.mantissa % 2 = 0) point (i + 1)).map (·, i + 1)
    let (k, count) := found.getD (neighbours value den point 17, 17)
    let digits := Nat.toDigits 10 k
    let trimmed := (digits.reverse.dropWhile (· = '0')).reverse
    ⟨if trimmed.isEmpty then ['0'] else trimmed, point + (digits.length - count : Int)⟩

end Double

/-- Where positional notation ends and how an exponent is written. -/
structure FloatStyle where
  /-- Smallest place of the point written positionally. -/
  lowestPoint : Int
  /-- Largest place of the point written positionally. -/
  highestPoint : Int
  /-- A positive exponent has a plus sign. -/
  plusSign : Bool
  /-- Fewest digits of an exponent. -/
  exponentWidth : Nat

/-- The text of a number in the given style; whole numbers keep a point and a zero. -/
def Double.format (style : FloatStyle) (x : Double) : List Char :=
  let ⟨digits, point⟩ := x.shortest
  let sign : List Char := if x.negative then ['-'] else []
  let zeros (n : Int) : List Char := List.replicate n.toNat '0'
  let size : Int := digits.length
  if style.lowestPoint ≤ point ∧ point ≤ style.highestPoint then
    if point ≤ 0 then sign ++ ['0', '.'] ++ zeros (-point) ++ digits
    else if size ≤ point then sign ++ digits ++ zeros (point - size) ++ ['.', '0']
    else sign ++ digits.take point.toNat ++ ['.'] ++ digits.drop point.toNat
  else
    let e := point - 1
    let mark : List Char := if e < 0 then ['-'] else if style.plusSign then ['+'] else []
    let exponent := Nat.toDigits 10 e.natAbs
    let fraction := match digits with
      | d :: r => if r.isEmpty then [d] else d :: '.' :: r
      | [] => ['0']
    sign ++ fraction ++ ['e'] ++ mark ++ List.replicate (style.exponentWidth - exponent.length) '0'
      ++ exponent

end Exposure
