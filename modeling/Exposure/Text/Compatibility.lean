import Exposure.Text.CompatibilityTable
import Exposure.Text.Split

/-!
The form under which identifiers are compared: every character is replaced by what it stands for,
marks are put in order and composed with the character before them as far as possible.
-/
namespace Exposure.Text

/-- The decompositions listed as text. -/
def decompositions : List (Char × List Char) :=
  decompositionText.flatMap fun line =>
    (splitAt ' ' line.toList).filterMap fun entry => match entry with
      | c :: image => some (c, image)
      | [] => none

/-- The compositions listed as text. -/
def compositions : List ((Char × Char) × Char) :=
  compositionText.flatMap fun line =>
    (splitAt ' ' line.toList).filterMap fun entry => match entry with
      | [a, b, c] => some ((a, b), c)
      | _ => none

/-- What a character stands for. -/
def decomposed (c : Char) : List Char :=
  if c.toNat < 128 then [c]
  else
    match compatibilityRuns.find? fun r => r.1 ≤ c.toNat && c.toNat ≤ r.2.1 with
    | some (first, _, image) => [Char.ofNat (image + (c.toNat - first))]
    | none => (decompositions.lookup c).getD [c]

/-- Zero for a character that no mark is moved across. -/
def combiningClass (c : Char) : Nat :=
  match combiningRanges.find? fun r => r.1 ≤ c.toNat && c.toNat ≤ r.2.1 with
  | some (_, _, k) => k
  | none => 0

/-- Each run of marks in the order of their classes, marks of one class in the order they have. -/
def orderMarks (pending : List (Nat × Char)) : List (Nat × Char) → List (Nat × Char)
  | [] => pending.mergeSort fun a b => a.1 ≤ b.1
  | (0, c) :: r => (pending.mergeSort fun a b => a.1 ≤ b.1) ++ (0, c) :: orderMarks [] r
  | (k + 1, c) :: r => orderMarks (pending ++ [(k + 1, c)]) r

/-- Hangul letters join by rule: a leading consonant and a vowel, or such a syllable and a
trailing consonant. -/
def composedHangul? (a b : Char) : Option Char :=
  let (m, n) := (a.toNat, b.toNat)
  if 0x1100 ≤ m ∧ m < 0x1113 ∧ 0x1161 ≤ n ∧ n < 0x1176 then
    some (Char.ofNat (0xAC00 + ((m - 0x1100) * 21 + (n - 0x1161)) * 28))
  else if 0xAC00 ≤ m ∧ m < 0xD7A4 ∧ (m - 0xAC00) % 28 = 0 ∧ 0x11A7 < n ∧ n < 0x11C3 then
    some (Char.ofNat (m + (n - 0x11A7)))
  else none

def composed? (a b : Char) : Option Char := (composedHangul? a b).or (compositions.lookup (a, b))

/-- Composes marks with the character `base` that they follow. `kept` holds what stays between, in
reverse, and `last` is the class of the last of it. -/
def compose (base : Option Char) (kept : List Char) (last : Nat) : List (Nat × Char) → List Char
  | [] => base.toList ++ kept.reverse
  | (k, c) :: r =>
    let joined := if kept.isEmpty || last < k then base.bind (composed? · c) else none
    match joined with
    | some d => compose (some d) kept last r
    | none =>
      if k = 0 then base.toList ++ kept.reverse ++ compose (some c) [] 0 r
      else compose base (c :: kept) k r

/-- The text in its composed compatibility form. -/
def compatible (s : List Char) : List Char :=
  if s.all fun c => c.toNat < 128 then s
  else compose none [] 0
    (orderMarks [] ((s.flatMap decomposed).map fun c => (combiningClass c, c)))

end Exposure.Text
