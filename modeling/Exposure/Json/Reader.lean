import Exposure.Json.Basic

/-!
Strict reading of JSON text. There are no comments, no byte order mark, no special numbers and no
lone surrogates. A key that occurs again keeps its first place and takes the last value.
-/
namespace Exposure.Json

/-- What becomes of integers outside 64 bits. -/
inductive IntegerRange where
  /-- They are read as floating point numbers. -/
  | word
  /-- They stay integers. -/
  | unbounded
  deriving DecidableEq

/-- Deepest nesting of arrays and objects. -/
def depthLimit : Nat := 1024

namespace Reader

def skipBlanks (s : List Char) : List Char :=
  s.dropWhile fun c => c = ' ' || c = '\t' || c = '\n' || c = '\r'

def hexValue? (c : Char) : Option Nat :=
  if c.isDigit then some (c.toNat - '0'.toNat)
  else if 'a' ≤ c ∧ c ≤ 'f' then some (c.toNat - 'a'.toNat + 10)
  else if 'A' ≤ c ∧ c ≤ 'F' then some (c.toNat - 'A'.toNat + 10)
  else none

/-- Four hexadecimal digits. -/
def unit? : List Char → Option (Nat × List Char)
  | a :: b :: c :: d :: r => do
    let high := (← hexValue? a) * 16 + (← hexValue? b)
    let low := (← hexValue? c) * 16 + (← hexValue? d)
    some (high * 256 + low, r)
  | _ => none

/-- The character of an escape after `\u`, a surrogate pair counted as one. -/
def escapedUnit? (s : List Char) : Option (Char × List Char) := do
  let (n, r) ← unit? s
  if 0xD800 ≤ n ∧ n < 0xDC00 then
    match r with
    | '\\' :: 'u' :: r' =>
      let (m, r'') ← unit? r'
      if 0xDC00 ≤ m ∧ m < 0xE000 then
        some (Char.ofNat (0x10000 + (n - 0xD800) * 1024 + (m - 0xDC00)), r'')
      else none
    | _ => none
  else if 0xDC00 ≤ n ∧ n < 0xE000 then none
  else some (Char.ofNat n, r)

def simpleEscape? : Char → Option Char
  | '"' => some '"'
  | '\\' => some '\\'
  | '/' => some '/'
  | 'b' => some (Char.ofNat 8)
  | 'f' => some (Char.ofNat 12)
  | 'n' => some '\n'
  | 'r' => some '\r'
  | 't' => some '\t'
  | _ => none

/-- The rest of a string after its opening quote; `done` holds what was read, in reverse. -/
def stringBody (fuel : Nat) (done : List Char) (s : List Char) : Option (String × List Char) :=
  match fuel with
  | 0 => none
  | fuel + 1 =>
    match s with
    | '"' :: r => some (String.ofList done.reverse, r)
    | '\\' :: 'u' :: r =>
      match escapedUnit? r with
      | some (c, r') => stringBody fuel (c :: done) r'
      | none => none
    | '\\' :: c :: r =>
      match simpleEscape? c with
      | some d => stringBody fuel (d :: done) r
      | none => none
    | c :: r => if c.toNat < 32 then none else stringBody fuel (c :: done) r
    | [] => none

/-- Leading decimal digits and the rest. -/
def digits (s : List Char) : List Char × List Char :=
  (s.takeWhile Char.isDigit, s.dropWhile Char.isDigit)

def natOfDigits (ds : List Char) : Nat := ds.foldl (fun n d => 10 * n + (d.toNat - '0'.toNat)) 0

/-- The digits behind a point, and whether there is one. -/
def fraction? : List Char → Option (List Char × List Char × Bool)
  | '.' :: r =>
    let (ds, r') := digits r
    if ds.isEmpty then none else some (ds, r', true)
  | r => some ([], r, false)

/-- The digits of an exponent after its sign. -/
def exponentDigits? (negative : Bool) (s : List Char) : Option (Int × List Char × Bool) :=
  let (ds, r) := digits s
  if ds.isEmpty then none
  else
    let n : Int := natOfDigits ds
    some (if negative then -n else n, r, true)

/-- The exponent, and whether there is one. -/
def exponent? : List Char → Option (Int × List Char × Bool)
  | c :: r =>
    if c = 'e' ∨ c = 'E' then
      match r with
      | '+' :: t => exponentDigits? false t
      | '-' :: t => exponentDigits? true t
      | t => exponentDigits? false t
    else some (0, c :: r, false)
  | [] => some (0, [], false)

/-- A number after its sign. -/
def number? (range : IntegerRange) (negative : Bool) (s : List Char) :
    Option (Json × List Char) := do
  let (whole, r) := digits s
  if whole.isEmpty || (whole.length > 1 && whole.head? == some '0') then none
  else
    let (fraction, r, fractional) ← fraction? r
    let (exponent, r, exponential) ← exponent? r
    let n := natOfDigits whole
    let signed : Int := if negative then -(n : Int) else n
    let asFloat := (Double.ofDecimal? negative (natOfDigits (whole ++ fraction))
      (exponent - fraction.length)).map fun x => (Json.float x, r)
    if fractional || exponential then asFloat
    else if range = .unbounded ∨ (-(twoTo 63 : Int) ≤ signed ∧ signed < twoTo 64) then
      some (Json.int signed, r)
    else asFloat

mutual

/-- One value; `depth` bounds the nesting that is still allowed. -/
def value (range : IntegerRange) (fuel depth : Nat) (s : List Char) : Option (Json × List Char) :=
  match fuel with
  | 0 => none
  | fuel + 1 =>
    match skipBlanks s with
    | 'n' :: 'u' :: 'l' :: 'l' :: r => some (.null, r)
    | 't' :: 'r' :: 'u' :: 'e' :: r => some (.bool true, r)
    | 'f' :: 'a' :: 'l' :: 's' :: 'e' :: r => some (.bool false, r)
    | '"' :: r => (stringBody (r.length + 1) [] r).map fun p => (.string p.1, p.2)
    | '-' :: r => number? range true r
    | '[' :: r =>
      match depth, skipBlanks r with
      | 0, _ => none
      | _, ']' :: r' => some (.array [], r')
      | depth + 1, _ => items range fuel depth [] r
    | '\x7b' :: r =>
      match depth, skipBlanks r with
      | 0, _ => none
      | _, '\x7d' :: r' => some (.object [], r')
      | depth + 1, _ => members range fuel depth [] r
    | r => number? range false r

/-- The items of an array up to its bracket; `done` holds those read, in reverse. -/
def items (range : IntegerRange) (fuel depth : Nat) (done : List Json) (s : List Char) :
    Option (Json × List Char) :=
  match fuel with
  | 0 => none
  | fuel + 1 =>
    match value range fuel depth s with
    | none => none
    | some (v, r) =>
      match skipBlanks r with
      | ',' :: r' => items range fuel depth (v :: done) r'
      | ']' :: r' => some (.array (v :: done).reverse, r')
      | _ => none

/-- The members of an object up to its brace. -/
def members (range : IntegerRange) (fuel depth : Nat) (done : List (String × Json))
    (s : List Char) : Option (Json × List Char) :=
  match fuel with
  | 0 => none
  | fuel + 1 =>
    match skipBlanks s with
    | '"' :: r =>
      match stringBody (r.length + 1) [] r with
      | none => none
      | some (k, r) =>
        match skipBlanks r with
        | ':' :: r =>
          match value range fuel depth r with
          | none => none
          | some (v, r) =>
            match skipBlanks r with
            | ',' :: r' => members range fuel depth (Assoc.put k v done) r'
            | '\x7d' :: r' => some (.object (Assoc.put k v done), r')
            | _ => none
        | _ => none
    | _ => none

end

end Reader

/-- The value written in the text, if it is a JSON text. -/
def ofText? (range : IntegerRange) (text : String) : Option Json :=
  let s := text.toList
  match Reader.value range (2 * s.length + 2) depthLimit s with
  | some (v, r) => if (Reader.skipBlanks r).isEmpty then some v else none
  | none => none

/-- The value written in UTF-8 bytes. -/
def ofBytes? (range : IntegerRange) (bytes : ByteArray) : Option Json :=
  (String.fromUTF8? bytes).bind (ofText? range)

end Exposure.Json
