/-!
White space, stripping, and cutting text at a separator. `strip` removes blank characters from both
ends and nothing else. Cutting keeps empty parts, so `joinWith` undoes `splitAt`; the two part cuts
look for the first or the last occurrence only.
-/
namespace Exposure.Text

/-- Membership of a code point in a list of closed ranges. -/
def inRanges (ranges : List (Nat × Nat)) (n : Nat) : Bool :=
  ranges.any fun r => r.1 ≤ n && n ≤ r.2

/-- Ranges of white space, the four information separators included. -/
def blankRanges : List (Nat × Nat) := [
  (9, 13), (28, 32), (133, 133), (160, 160), (5760, 5760), (8192, 8202), (8232, 8233),
  (8239, 8239), (8287, 8287), (12288, 12288)]

/-- White space of any script. -/
def isBlank (c : Char) : Bool := inRanges blankRanges c.toNat

/-- The text without blank characters at either end. -/
def strip (s : List Char) : List Char :=
  ((s.dropWhile isBlank).reverse.dropWhile isBlank).reverse

/-- The parts between the occurrences of `sep`; there is always at least one. -/
def splitAt (sep : Char) : List Char → List (List Char)
  | [] => [[]]
  | c :: r =>
    if c = sep then [] :: splitAt sep r
    else match splitAt sep r with
      | p :: ps => (c :: p) :: ps
      | [] => [[c]]

/-- The parts in order with `sep` between neighbours. -/
def joinWith (sep : List Char) : List (List Char) → List Char
  | [] => []
  | [p] => p
  | p :: q :: ps => p ++ sep ++ joinWith sep (q :: ps)

theorem splitAt_ne_nil (sep : Char) (s : List Char) : splitAt sep s ≠ [] := by
  induction s with
  | nil => simp [splitAt]
  | cons c r _ => simp only [splitAt]; split <;> (try split) <;> simp

theorem joinWith_splitAt (sep : Char) (s : List Char) : joinWith [sep] (splitAt sep s) = s := by
  induction s with
  | nil => rfl
  | cons c r ih =>
    have hne := splitAt_ne_nil sep r
    by_cases h : c = sep
    · cases hr : splitAt sep r with
      | nil => exact absurd hr hne
      | cons p ps => simp_all [splitAt, joinWith]
    · cases hr : splitAt sep r with
      | nil => exact absurd hr hne
      | cons p ps => cases ps <;> simp_all [splitAt, joinWith]

/-- The text before and after the first `sep`, if it occurs. -/
def cutFirst (sep : List Char) : List Char → Option (List Char × List Char)
  | [] => if sep = [] then some ([], []) else none
  | c :: r =>
    if sep.isPrefixOf (c :: r) then some ([], (c :: r).drop sep.length)
    else (cutFirst sep r).map fun (a, b) => (c :: a, b)

/-- The text before and after the last `sep`, if it occurs. -/
def cutLast (sep : Char) (s : List Char) : Option (List Char × List Char) :=
  let after := s.reverse.takeWhile (· ≠ sep)
  match s.reverse.dropWhile (· ≠ sep) with
  | [] => none
  | _ :: before => some (before.reverse, after.reverse)

/-- The parts of a string between the occurrences of `sep`. -/
def splitString (sep : Char) (s : String) : List String :=
  (splitAt sep s.toList).map String.ofList

/-- Strings in order with `sep` between neighbours. -/
def joinStrings (sep : String) (parts : List String) : String :=
  String.ofList (joinWith sep.toList (parts.map String.toList))

/-- A line break is a line feed, a carriage return or both in this order; here it becomes a line
feed. -/
def unifyLineBreaks : List Char → List Char
  | '\r' :: '\n' :: r => '\n' :: unifyLineBreaks r
  | '\r' :: r => '\n' :: unifyLineBreaks r
  | c :: r => c :: unifyLineBreaks r
  | [] => []

/-- Occurrences of a character removed. -/
def without (c : Char) (s : List Char) : List Char := s.filter (· ≠ c)

end Exposure.Text
