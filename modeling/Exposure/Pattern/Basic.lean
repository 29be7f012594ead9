import Exposure.Text.Case
import Exposure.Text.Letter

/-!
Regular expressions for file names, as read from a pattern: characters and sets with the options
that hold where they stand, anchors, repetition in three modes, captures, references back to them
and looks ahead and behind.
-/
namespace Exposure.Pattern

/-- Options that hold at one place of a pattern. -/
structure Options where
  ignoreCase : Bool := false
  /-- Classes and case know ASCII only. -/
  ascii : Bool := false
  /-- Line anchors match at every line. -/
  multiline : Bool := false
  /-- The dot matches a line break. -/
  dotAll : Bool := false
  /-- Blanks and comments in the pattern are skipped. -/
  verbose : Bool := false
  deriving DecidableEq, Inhabited

inductive Category where
  | digit
  | space
  | word
  deriving DecidableEq

/-- A member of a bracketed set. -/
inductive SetItem where
  | range (first last : Nat)
  /-- A character outside of the basic plane that stands by itself. -/
  | single (code : Nat)
  | category (category : Category) (negated : Bool)
  deriving DecidableEq

/-- A test of a single character. -/
inductive CharTest where
  | char (code : Nat)
  | any
  | set (negated : Bool) (items : List SetItem)
  deriving DecidableEq

inductive Anchor where
  | lineStart
  | lineEnd
  | textStart
  | textEnd
  | wordEdge
  | noWordEdge
  deriving DecidableEq

/-- How much a repetition takes before what follows is tried. -/
inductive Mode where
  | greedy
  | lazy
  | possessive
  deriving DecidableEq

inductive Regex where
  | empty
  | one (options : Options) (test : CharTest)
  | anchor (options : Options) (kind : Anchor)
  | seq (first second : Regex)
  | alt (first second : Regex)
  | repetition (least : Nat) (most : Option Nat) (mode : Mode) (body : Regex)
  | capture (number : Nat) (body : Regex)
  | backReference (options : Options) (number : Nat) (widths : Nat × Option Nat)
  /-- What follows, or what stands before over the given width, matches or does not. -/
  | look (behind : Option Nat) (negated : Bool) (body : Regex)
  | atomic (body : Regex)
  | conditional (number : Nat) (yes no : Regex)
  deriving DecidableEq, Inhabited

/-- Fewest and most characters of a match; none stands for no bound. -/
abbrev Widths := Nat × Option Nat

def addWidths (a b : Widths) : Widths :=
  (a.1 + b.1, match a.2, b.2 with
    | some x, some y => some (x + y)
    | _, _ => none)

def joinWidths (a b : Widths) : Widths :=
  (min a.1 b.1, match a.2, b.2 with
    | some x, some y => some (max x y)
    | _, _ => none)

def Regex.widths : Regex → Widths
  | empty => (0, some 0)
  | one _ _ => (1, some 1)
  | anchor _ _ => (0, some 0)
  | seq a b => addWidths a.widths b.widths
  | alt a b => joinWidths a.widths b.widths
  | repetition least most _ body =>
    let (lo, hi) := body.widths
    (lo * least, match hi, most with
      | some 0, _ => some 0
      | some h, some m => some (h * m)
      | _, some 0 => some 0
      | _, _ => none)
  | capture _ body => body.widths
  | backReference _ _ ws => ws
  | look _ _ _ => (0, some 0)
  | atomic body => body.widths
  | conditional _ yes no => joinWidths yes.widths no.widths

/-- Lowercase of one character by itself, the first one if there are several. -/
def simpleLower (ascii : Bool) (c : Char) : Char :=
  if ascii then c.toLower else (Text.lowerChar c).headD c

/-- Lowercase characters that share an uppercase, beyond what lowercase itself joins. -/
def caseKin : List (List Nat) := [
  [105, 305], [115, 383], [181, 956], [837, 953, 8126], [912, 8147], [944, 8163], [946, 976],
  [949, 1013], [952, 977], [954, 1008], [960, 982], [961, 1009], [962, 963], [966, 981],
  [1074, 7296], [1076, 7297], [1086, 7298], [1089, 7299], [1090, 7300, 7301], [1098, 7302],
  [1123, 7303], [7304, 42571], [7777, 7835], [64261, 64262]]

/-- The lowercase characters that count as the same as this one. -/
def kinOf (ascii : Bool) (lower : Nat) : List Nat :=
  if ascii then [lower]
  else match caseKin.find? (·.contains lower) with
    | some kin => kin
    | none => [lower]

/-- The characters with the given lowercase, itself included. -/
def withLower (ascii : Bool) (lower : Nat) : List Nat :=
  if ascii then
    if 97 ≤ lower ∧ lower ≤ 122 then [lower, lower - 32] else [lower]
  else
    lower :: (if lower = 105 then [304] else []) ++ Text.lowerRuns.filterMap fun r =>
      let n : Int := (lower : Int) - r.delta
      if 0 ≤ n ∧ r.image? n.toNat = some lower then some n.toNat else none

/-- Every character that a range may hold for this one when case does not count. -/
def caseVariants (ascii : Bool) (c : Char) : List Nat :=
  (kinOf ascii (simpleLower ascii c).toNat).flatMap (withLower ascii)

def Category.holds (ascii : Bool) (c : Char) : Category → Bool
  | digit => if ascii then c.isDigit else Text.isDecimal c
  | space =>
    if ascii then c = ' ' || (9 ≤ c.toNat && c.toNat ≤ 13) else Text.isBlank c
  | word => if ascii then c.isAlphanum || c = '_' else Text.isWord c

/-- The last code point of the basic plane. -/
def planeEnd : Nat := 0xffff

/-- Uppercase of one character by itself, the first one if there are several. -/
def simpleUpper (c : Char) : Char := (Text.upperChar c).headD c

/-- When case does not count, a range that leaves the basic plane knows the uppercase of all
scripts, and a character outside of it is only compared with the lowercase. -/
def SetItem.holds (o : Options) (c : Char) : SetItem → Bool
  | range first last =>
    let within (n : Nat) : Bool := first ≤ n && n ≤ last
    if o.ignoreCase then
      (caseVariants o.ascii c).any within || (planeEnd < last && within (simpleUpper c).toNat)
    else within c.toNat
  | single code => (if o.ignoreCase then simpleLower o.ascii c else c).toNat == code
  | category k negated => k.holds o.ascii c != negated

def CharTest.holds (o : Options) (c : Char) : CharTest → Bool
  | char code =>
    if o.ignoreCase then (caseVariants o.ascii c).contains code else c.toNat == code
  | any => o.dotAll || c ≠ '\n'
  | set negated items => items.any (·.holds o c) != negated

end Exposure.Pattern
