import Exposure.Text.Split
import Exposure.Text.CaseTable

/-!
Uppercase, lowercase and case folding of whole texts. Uppercase and folding work character by
character; the lowercase of the capital sigma depends on whether it ends a word.
-/
namespace Exposure.Text

/-- The image of a code point if the run holds it. -/
def CaseRun.image? (r : CaseRun) (n : Nat) : Option Nat :=
  if r.first ≤ n ∧ n ≤ r.last ∧ (n - r.first) % r.step = 0 then some ((n : Int) + r.delta).toNat
  else none

/-- The image of a character under runs and expansions; a character in neither is its own image. -/
def caseImage (runs : List CaseRun) (expansions : List (Nat × List Nat)) (c : Char) : List Char :=
  match runs.findSome? (·.image? c.toNat) with
  | some n => [Char.ofNat n]
  | none =>
    match expansions.lookup c.toNat with
    | some ns => ns.map Char.ofNat
    | none => [c]

/-- Uppercase of one character, possibly several. -/
def upperChar (c : Char) : List Char := caseImage upperRuns upperExpansions c

/-- Case folding of one character, possibly several. -/
def foldChar (c : Char) : List Char := caseImage foldRuns foldExpansions c

/-- Lowercase of one character away from any word end. -/
def lowerChar (c : Char) : List Char := caseImage lowerRuns lowerExpansions c

def upper (s : List Char) : List Char := s.flatMap upperChar

def caseFold (s : List Char) : List Char := s.flatMap foldChar

/-- The first character that is not case ignorable has case. -/
def startsCased (s : List Char) : Bool :=
  match s.dropWhile (inRanges caseIgnorableRanges ·.toNat) with
  | [] => false
  | c :: _ => inRanges casedRanges c.toNat

/-- Lowercase with the text before it given in reverse. A capital sigma that follows a letter and
is followed by none becomes the final form. -/
def lowerAfter (before : List Char) : List Char → List Char
  | [] => []
  | c :: r =>
    (if c = 'Σ' then [if startsCased before && !startsCased r then 'ς' else 'σ'] else lowerChar c)
      ++ lowerAfter (c :: before) r

def lower (s : List Char) : List Char := lowerAfter [] s

/-- Uppercase of a string. -/
def upperString (s : String) : String := String.ofList (upper s.toList)

theorem upper_append (s t : List Char) : upper (s ++ t) = upper s ++ upper t := by
  simp [upper]

end Exposure.Text
