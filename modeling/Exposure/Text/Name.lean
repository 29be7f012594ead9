import Exposure.Text.Split
import Exposure.Text.NameTable

/-!
Characters by their names. Case does not count, but in the names of unified ideographs and of Hangul
syllables, which are made by a rule.
-/
namespace Exposure.Text

/-- The names of a row, each with its mark, and what stands before the first of them. -/
def markedNames : List Char → List Char × List (Char × List Char)
  | [] => ([], [])
  | c :: r =>
    let (text, names) := markedNames r
    if c.isLower then ([], (c, text) :: names) else (c :: text, names)

/-- The position of a name, in words, among marked names that stand behind another one. -/
def positionOf? (name before : List (List Char)) : List (Char × List Char) → Option Nat
  | [] => none
  | (mark, text) :: names =>
    let words := before.take (mark.toNat - 'a'.toNat) ++ splitAt ' ' text
    if words = name then some 0 else (positionOf? name words names).map (· + 1)

/-- The code point with a name in the table. -/
def listedCode? (name : List Char) : Option Nat :=
  nameRows.findSome? fun rows => rows.findSome? fun (first, lines) =>
    (positionOf? (splitAt ' ' name) []
      (markedNames (lines.flatMap String.toList)).2).map (first + ·)

/-- What is left of a text behind another one. -/
def behind? (start s : List Char) : Option (List Char) :=
  if start.isPrefixOf s then some (s.drop start.length) else none

/-- The value of a hexadecimal numeral of four or five digits in capitals. -/
def capitalHex? (s : List Char) : Option Nat :=
  if s.length = 4 ∨ s.length = 5 then
    s.foldlM (fun n c =>
      if c.isDigit then some (n * 16 + (c.toNat - 48))
      else if 'A' ≤ c ∧ c ≤ 'F' then some (n * 16 + (c.toNat - 55)) else none) 0
  else none

/-- The code point that a name gives itself. The code points from `0x10000` on have five digits in
such a name, the others four. -/
def codedCode? (name : List Char) : Option Nat :=
  codedNames.findSome? fun (start, first, last) => do
    let digits ← behind? start.toList name
    let n ← capitalHex? digits
    if first ≤ n ∧ n ≤ last ∧ (digits.length = 5 ↔ 0x10000 ≤ n) then some n else none

/-- The code point of a unified ideograph, which may have a zero before it. -/
def ideographCode? (digits : List Char) : Option Nat := do
  let n ← capitalHex? digits
  if inRanges ideographRanges n then some n else none

/-- Initial consonants, vowels and final consonants of the names of Hangul syllables, in order. -/
def hangulParts : List (List String) := [
  ["G", "GG", "N", "D", "DD", "R", "M", "B", "BB", "S", "SS", "", "J", "JJ", "C", "K", "T", "P",
    "H"],
  ["A", "AE", "YA", "YAE", "EO", "E", "YEO", "YE", "O", "WA", "WAE", "OE", "YO", "U", "WEO", "WE",
    "WI", "YU", "EU", "YI", "I"],
  ["", "G", "GG", "GS", "N", "NJ", "NH", "D", "L", "LG", "LM", "LB", "LS", "LT", "LP", "LH", "M",
    "B", "BS", "S", "SS", "NG", "J", "C", "K", "T", "P", "H"]]

/-- The longest of some parts that a text begins with. -/
def longestPart? (parts : List String) (s : List Char) : Option String :=
  parts.foldl (fun found part =>
    if part.toList.isPrefixOf s && found.all (·.length < part.length) then some part
    else found) none

/-- The code point of a Hangul syllable by the names of its parts. -/
def hangulCode? (kinds : List (List String)) (index : Nat) (s : List Char) : Option Nat :=
  match kinds with
  | [] => if s.isEmpty then some (0xac00 + index) else none
  | parts :: rest => do
    let part ← longestPart? parts s
    hangulCode? rest (index * parts.length + parts.idxOf part) (s.drop part.length)

/-- The code point of the character with a name. -/
def namedCode? (name : List Char) : Option Nat :=
  match behind? "HANGUL SYLLABLE ".toList name, behind? "CJK UNIFIED IDEOGRAPH-".toList name with
  | some parts, _ => hangulCode? hangulParts 0 parts
  | none, some digits => ideographCode? digits
  | none, none =>
    let capitals := name.map Char.toUpper
    (codedCode? capitals).or
      ((nameAliases.lookup (String.ofList capitals)).or (listedCode? capitals))

end Exposure.Text
