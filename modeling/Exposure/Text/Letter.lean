import Exposure.Text.IdentifierTable
import Exposure.Text.PrintableTable
import Exposure.Text.Split
import Exposure.Text.WordTable

/-!
Character classes that range over all scripts: word characters, decimal digits, characters of
identifiers and printable characters. Quoted text, as it stands in messages, is in single quotes
unless it holds a single quote and no double quote; the quote in use, the backslash and what is not
printable are escaped.
-/
namespace Exposure.Text

/-- A letter or digit of any script. -/
def isAlphanumeric (c : Char) : Bool :=
  c.isAlphanum || (128 ≤ c.toNat && inRanges alphanumericRanges c.toNat)

/-- A letter, a digit or the underscore. -/
def isWord (c : Char) : Bool := c = '_' || isAlphanumeric c

/-- A decimal digit of any script. -/
def isDecimal (c : Char) : Bool :=
  c.isDigit || (128 ≤ c.toNat && decimalZeros.any fun z => z ≤ c.toNat && c.toNat ≤ z + 9)

/-- The value of a decimal digit of any script. -/
def decimalValue? (c : Char) : Option Nat :=
  (decimalZeros.find? fun z => z ≤ c.toNat && c.toNat ≤ z + 9).map (c.toNat - ·)

/-- The digits of a number, single underscores between them left out; `behindDigit` tells what
stands before. -/
def groupedDigits? (behindDigit : Bool) : List Char → Option (List Nat)
  | [] => if behindDigit then some [] else none
  | c :: r =>
    if c = '_' then if behindDigit then groupedDigits? false r else none
    else do
      let d ← decimalValue? c
      return d :: (← groupedDigits? true r)

/-- May start an identifier. -/
def isIdentifierStart (c : Char) : Bool :=
  c = '_' || c.isAlpha || (128 ≤ c.toNat && inRanges identifierStartRanges c.toNat)

/-- May follow in an identifier. -/
def isIdentifierContinue (c : Char) : Bool :=
  c = '_' || c.isAlphanum || (128 ≤ c.toNat && inRanges identifierContinueRanges c.toNat)

/-- Is shown as itself in quoted text. -/
def isPrintable (c : Char) : Bool :=
  if c.toNat < 128 then 32 ≤ c.toNat && c.toNat < 127 else inRanges printableRanges c.toNat

/-- Lowercase hexadecimal digits of `n`, at least `width` of them. -/
def hexDigits (width n : Nat) : List Char :=
  let digits := Nat.toDigits 16 n
  List.replicate (width - digits.length) '0' ++ digits

/-- The quote that needs the fewer escapes. -/
def quoteFor (s : List Char) : Char :=
  if s.contains '\'' && !s.contains '"' then '"' else '\''

/-- One character inside the given quotes. -/
def escapeChar (quote c : Char) : List Char :=
  if c = quote ∨ c = '\\' then ['\\', c]
  else if c = '\n' then ['\\', 'n']
  else if c = '\r' then ['\\', 'r']
  else if c = '\t' then ['\\', 't']
  else if isPrintable c then [c]
  else if c.toNat ≤ 0xff then '\\' :: 'x' :: hexDigits 2 c.toNat
  else if c.toNat ≤ 0xffff then '\\' :: 'u' :: hexDigits 4 c.toNat
  else '\\' :: 'U' :: hexDigits 8 c.toNat

/-- The text in quotes. -/
def quoted (s : List Char) : List Char :=
  let q := quoteFor s
  q :: s.flatMap (escapeChar q) ++ [q]

/-- A string in quotes. -/
def quotedString (s : String) : String := String.ofList (quoted s.toList)

end Exposure.Text
