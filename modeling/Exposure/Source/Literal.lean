import Exposure.Json.Reader
import Exposure.Source.Syntax

/-!
What strings in a source text stand for. A backslash begins an escape unless the string is raw; one
that stands for nothing stays as it is, and one that is not complete is an error.
-/
namespace Exposure.Source.Literal

/-- The character of a code point; one that stands for none becomes the replacement character. -/
def character (n : Nat) : Char := if n.isValidChar then Char.ofNat n else Char.ofNat 0xFFFD

def hexNumber? (ds : List Char) : Option Nat :=
  ds.foldlM (fun n d => (Json.Reader.hexValue? d).map (16 * n + ·)) 0

/-- A code point in exactly so many hexadecimal digits. -/
def hexEscape? (width : Nat) (s : List Char) : Option (Nat × List Char) := do
  let ds := s.take width
  if ds.length < width then none
  let n ← hexNumber? ds
  if n < 0x110000 then some (n, s.drop width) else none

def simpleEscape? : Char → Option Char
  | '\\' => some '\\'
  | '\'' => some '\''
  | '"' => some '"'
  | 'a' => some (Char.ofNat 7)
  | 'b' => some (Char.ofNat 8)
  | 'f' => some (Char.ofNat 12)
  | 'n' => some '\n'
  | 'r' => some '\r'
  | 't' => some '\t'
  | 'v' => some (Char.ofNat 11)
  | _ => none

def isOctal (c : Char) : Bool := '0' ≤ c && c ≤ '7'

/-- A character given by its name in braces. The names themselves are not known here. -/
def namedEscape? : List Char → Option (List Char)
  | '\x7b' :: r =>
    match r.dropWhile (· ≠ '\x7d') with
    | _ :: rest => if (r.takeWhile (· ≠ '\x7d')).isEmpty then none else some rest
    | [] => none
  | _ => none

/-- The text with its escapes replaced; `bytes` know no escapes of four or more digits. -/
def decode? (bytes : Bool) (fuel : Nat) (s : List Char) : Option (List Char) :=
  match fuel, s with
  | 0, _ => some []
  | _, [] => some []
  | fuel + 1, '\\' :: c :: r =>
    let unit (width : Nat) : Option (List Char) := do
      let (n, rest) ← hexEscape? width r
      (decode? bytes fuel rest).map (character n :: ·)
    if c = '\n' then decode? bytes fuel r
    else if c = 'x' then unit 2
    else if isOctal c then
      let ds := (c :: r).takeWhile isOctal |>.take 3
      let n := ds.foldl (fun n d => 8 * n + (d.toNat - '0'.toNat)) 0
      (decode? bytes fuel ((c :: r).drop ds.length)).map (character n :: ·)
    else if bytes then match simpleEscape? c with
      | some d => (decode? bytes fuel r).map (d :: ·)
      | none => (decode? bytes fuel r).map (fun t => '\\' :: c :: t)
    else if c = 'u' then unit 4
    else if c = 'U' then unit 8
    else if c = 'N' then do
      let rest ← namedEscape? r
      (decode? bytes fuel rest).map (character 0x110000 :: ·)
    else match simpleEscape? c with
      | some d => (decode? bytes fuel r).map (d :: ·)
      | none => (decode? bytes fuel r).map (fun t => '\\' :: c :: t)
  | fuel + 1, c :: r => (decode? bytes fuel r).map (c :: ·)

/-- What a body without expressions stands for. -/
def plain? (form : StringForm) (body : List Char) : Option String :=
  if form.bytes && body.any (128 ≤ ·.toNat) then none
  else if form.raw then some (String.ofList body)
  else (decode? form.bytes body.length body).map String.ofList

end Exposure.Source.Literal
