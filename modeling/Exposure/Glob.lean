/-!
Glob patterns over a whole text: `*` stands for any run of characters, `?` for one, a bracket for
one of a set. A bracket that is never closed stands for itself. Ranges of a bracket that are empty
are dropped, which may leave a set that matches nothing.
-/
namespace Exposure.Glob

/-- One element of a pattern. -/
inductive Item where
  | anyRun
  | anyChar
  | char (c : Char)
  /-- One character inside, or outside, of the ranges. -/
  | set (negated : Bool) (ranges : List (Char × Char))
  deriving DecidableEq

/-- A character of a bracket; `dash` is a hyphen that may form a range. -/
inductive Mark where
  | char (c : Char)
  | dash
  deriving DecidableEq

/-- The text up to the bracket's end and the rest behind it. A closing bracket directly at the
start belongs to the set. -/
def bracket? (s : List Char) : Option (List Char × List Char) :=
  let (lead, r) := match s with
    | '!' :: r => (['!'], r)
    | r => ([], r)
  let (lead, r) := match r with
    | ']' :: r' => (lead ++ [']'], r')
    | r' => (lead, r')
  match r.dropWhile (· ≠ ']') with
  | [] => none
  | _ :: rest => some (lead ++ r.takeWhile (· ≠ ']'), rest)

/-- Cuts at the hyphens that may form a range. `skip` characters are passed over first: a hyphen
needs a character before it, and two after the hyphen before. -/
def cutHyphens (skip : Nat) (chunk : List Char) : List Char → List (List Char)
  | [] => [chunk.reverse]
  | c :: r =>
    match skip with
    | 0 => if c = '-' then chunk.reverse :: cutHyphens 2 [] r else cutHyphens 0 (c :: chunk) r
    | skip + 1 => cutHyphens skip (c :: chunk) r

/-- The chunks of a bracket; a hyphen at the end belongs to the chunk before it. -/
def chunks (s : List Char) : List (List Char) :=
  let cs := cutHyphens (if s.head? = some '!' then 2 else 1) [] s
  match cs.reverse with
  | [] :: last :: before => ((last ++ ['-']) :: before).reverse
  | _ => cs

/-- Drops empty ranges between neighbouring chunks, from the end to the start. -/
def dropEmptyRanges (cs : List (List Char)) : List (List Char) :=
  cs.foldr (fun c done => match done with
    | d :: ds =>
      match c.getLast?, d.head? with
      | some hi, some lo => if lo < hi then (c.dropLast ++ d.tail) :: ds else c :: d :: ds
      | _, _ => c :: d :: ds
    | [] => [c]) []

/-- The marks of a bracket. -/
def marks (s : List Char) : List Mark :=
  if s.contains '-' then
    match dropEmptyRanges (chunks s) with
    | [] => []
    | c :: cs => c.map .char ++ cs.flatMap fun d => .dash :: d.map .char
  else s.map .char

/-- The ranges that the marks spell. -/
def ranges : List Mark → List (Char × Char)
  | .char a :: .dash :: .char b :: r => (a, b) :: ranges r
  | .char a :: r => (a, a) :: ranges r
  | .dash :: r => ('-', '-') :: ranges r
  | [] => []

/-- The set that a bracket's text stands for. -/
def setOf (s : List Char) : Item :=
  match marks s with
  | [] => .set false []
  | .char '!' :: r => if r.isEmpty then .anyChar else .set true (ranges r)
  | ms => .set false (ranges ms)

/-- The items of a pattern; the fuel is the pattern's length. -/
def itemsWithin (fuel : Nat) (s : List Char) : List Item :=
  match fuel, s with
  | 0, _ => []
  | _, [] => []
  | fuel + 1, '*' :: r => .anyRun :: itemsWithin fuel r
  | fuel + 1, '?' :: r => .anyChar :: itemsWithin fuel r
  | fuel + 1, '[' :: r =>
    match bracket? r with
    | some (inside, rest) => setOf inside :: itemsWithin fuel rest
    | none => .char '[' :: itemsWithin fuel r
  | fuel + 1, c :: r => .char c :: itemsWithin fuel r

def items (pattern : List Char) : List Item := itemsWithin pattern.length pattern

/-- One character against an item other than a run. -/
def Item.accepts (c : Char) : Item → Bool
  | .anyRun => true
  | .anyChar => true
  | .char d => c = d
  | .set negated rs => (rs.any fun r => r.1 ≤ c && c ≤ r.2) != negated

/-- The items match the whole text. -/
def matchItems : List Item → List Char → Bool
  | [], s => s.isEmpty
  | .anyRun :: p, [] => matchItems p []
  | .anyRun :: p, c :: s => matchItems p (c :: s) || matchItems (.anyRun :: p) s
  | _ :: _, [] => false
  | i :: p, c :: s => i.accepts c && matchItems p s
termination_by p s => p.length + s.length

/-- Adjacent runs count as one. -/
def squeeze : List Item → List Item
  | .anyRun :: .anyRun :: p => squeeze (.anyRun :: p)
  | i :: p => i :: squeeze p
  | [] => []

/-- The pattern matches the whole name, case counted. -/
def isMatch (pattern name : String) : Bool :=
  matchItems (squeeze (items pattern.toList)) name.toList

end Exposure.Glob
