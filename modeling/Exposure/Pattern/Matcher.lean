import Exposure.Pattern.Parser

/-!
Searching for a regular expression in a text by backtracking. Each construct is given what has to
match behind it; the first way through in the order of the expression's preference counts. A search
for all matches goes through the text once, so that no two of them overlap.
-/
namespace Exposure.Pattern

/-- A place in a text and what the groups have captured. -/
structure Point where
  position : Nat
  captures : List (Nat × Nat × Nat) := []
  /-- Where the groups that were entered began, whether they have been left or not. -/
  starts : List (Nat × Nat) := []

/-- The place behind the parenthesis that opens a group. -/
def Point.enter (p : Point) (number : Nat) : Point :=
  { p with starts := (number, p.position) :: p.starts }

/-- The place with what a group has captured that began at `start` and ends there. -/
def Point.capture (p : Point) (number start : Nat) : Point :=
  { p with captures := (number, start, p.position) :: p.captures }

/-- A group has captured something. One that was entered again, further on than its capture ends,
counts as one that has not. -/
def Point.hasCaptured (p : Point) (number : Nat) : Bool :=
  (p.captures.lookup number).any fun capture =>
    (p.starts.lookup number).all (· ≤ capture.2)

/-- What has to match from a place on. -/
abbrev Rest := Point → Option Point

/-- The rounds that a repetition needs. -/
def neededRounds (body : Point → Rest → Option Point) : Nat → Point → Rest → Option Point
  | 0, p, k => k p
  | n + 1, p, k => body p fun q => neededRounds body n q k

/-- The rounds that a repetition may have besides. There is none from the place where the one
before, which began at `last`, has begun; a round that takes nothing is therefore the last one. The
fuel bounds the rounds. -/
def furtherRounds (body : Point → Rest → Option Point) (lazy : Bool) (fuel : Nat)
    (most last : Option Nat) (p : Point) (k : Rest) : Option Point :=
  match fuel with
  | 0 => none
  | fuel + 1 =>
    if most = some 0 || last = some p.position then k p
    else
      let further := body p fun q =>
        furtherRounds body lazy fuel (most.map (· - 1)) (some p.position) q k
      if lazy then (k p).or further else further.or (k p)

/-- A repetition: the rounds it needs and then the ones it may have. -/
def repeatBody (body : Point → Rest → Option Point) (lazy : Bool) (fuel least : Nat)
    (most : Option Nat) (p : Point) (k : Rest) : Option Point :=
  neededRounds body least p fun q =>
    furtherRounds body lazy fuel (most.map (· - least)) none q k

/-- A character of the text that belongs to words. -/
def wordAt (text : Array Char) (o : Options) (i : Nat) : Bool :=
  (text[i]?).any fun c => Category.word.holds o.ascii c

def Anchor.holds (text : Array Char) (o : Options) (i : Nat) : Anchor → Bool
  | textStart => i = 0
  | lineStart => i = 0 || (o.multiline && text[i - 1]? = some '\n')
  | textEnd => i = text.size
  | lineEnd =>
    i = text.size || (text[i]? = some '\n' && (o.multiline || i + 1 = text.size))
  | wordEdge => (0 < i && wordAt text o (i - 1)) != wordAt text o i
  | noWordEdge =>
    -- An empty text has neither an edge nor a place without one.
    0 < text.size && (0 < i && wordAt text o (i - 1)) == wordAt text o i

/-- The same characters, letters of either case counting as one if the options say so. -/
def sameText (o : Options) (a b : List Char) : Bool :=
  if o.ignoreCase then a.map (simpleLower o.ascii) == b.map (simpleLower o.ascii) else a == b

/-- Matches an expression at a place and then the rest. -/
def Regex.run (text : Array Char) : Regex → Point → Rest → Option Point
  | empty, p, k => k p
  | one o test, p, k =>
    match text[p.position]? with
    | some c => if test.holds o c then k { p with position := p.position + 1 } else none
    | none => none
  | anchor o kind, p, k => if kind.holds text o p.position then k p else none
  | seq a b, p, k => a.run text p fun q => b.run text q k
  | alt a b, p, k => (a.run text p k).or (b.run text p k)
  | repetition least most mode body, p, k =>
    let fuel := text.size + 2
    match mode with
    | .greedy => repeatBody (body.run text) false fuel least most p k
    | .lazy => repeatBody (body.run text) true fuel least most p k
    | .possessive =>
      -- Every round is taken the first way it can be, and none is taken back.
      let round (p : Point) (k : Rest) : Option Point := (body.run text p some).bind k
      (repeatBody round false fuel least most p some).bind k
  | capture number body, p, k =>
    body.run text (p.enter number) fun q => k (q.capture number p.position)
  | backReference o number _, p, k =>
    match p.captures.lookup number with
    | none => none
    | some (i, j) =>
      let wanted := (text.extract i j).toList
      let found := (text.extract p.position (p.position + (j - i))).toList
      if found.length = wanted.length && sameText o wanted found then
        k { p with position := p.position + (j - i) }
      else none
  | look behind negated body, p, k =>
    let start := match behind with
      | none => some p.position
      | some n => if n ≤ p.position then some (p.position - n) else none
    let found := start.bind fun i => body.run text { p with position := i } some
    match found, negated with
    | some q, false => k { q with position := p.position }
    | none, true => k p
    | _, _ => none
  | atomic body, p, k => (body.run text p some).bind k
  | conditional number yes no, p, k =>
    if p.hasCaptured number then yes.run text p k else no.run text p k

/-- The expression matches somewhere in the text. -/
def Regex.occursIn (r : Regex) (text : String) : Bool :=
  let cs := text.toList.toArray
  (List.range (cs.size + 1)).any fun i => (r.run cs { position := i } some).isSome

/-- What a group has captured, if it took part in the match. -/
def Point.captured (text : Array Char) (p : Point) (number : Nat) : Option (List Char) :=
  (p.captures.lookup number).map fun (i, j) => (text.extract i j).toList

/-- The ends of the matches that begin at a position: the first match, and if this is empty the
first that is not. -/
def Regex.matchesAt (text : Array Char) (r : Regex) (i : Nat) : List Point :=
  match r.run text { position := i } some with
  | none => []
  | some q =>
    if q.position = i then
      q :: (r.run text { position := i } fun q =>
        if q.position = i then none else some q).toList
    else [q]

/-- The matches that begin at given positions, of which those before `start` are passed over. The
next match does not begin before the end of the last one. -/
def Regex.matchesFrom (text : Array Char) (r : Regex) (start : Nat) : List Nat → List Point
  | [] => []
  | i :: is =>
    if i < start then r.matchesFrom text start is
    else
      let found := r.matchesAt text i
      found ++ r.matchesFrom text ((found.getLast?.map (·.position)).getD start) is

/-- All matches in a text, from its start on. -/
def Regex.findAll (r : Regex) (text : Array Char) : List Point :=
  r.matchesFrom text 0 (List.range (text.size + 1))

end Exposure.Pattern
