import Exposure.Pattern.Basic
import Exposure.Text.Name

/-!
Reading a pattern. A pattern is a list of characters and escaped characters; every way to go wrong
is the one error that the pattern is no regular expression.
-/
namespace Exposure.Pattern

/-- A character of a pattern, or one behind a backslash. -/
inductive Token where
  | plain (c : Char)
  | escaped (c : Char)
  deriving DecidableEq

/-- The tokens of a pattern; none if a backslash ends it. -/
def tokens? : List Char → Option (List Token)
  | [] => some []
  | ['\\'] => none
  | '\\' :: c :: r => (tokens? r).map (.escaped c :: ·)
  | c :: r => (tokens? r).map (.plain c :: ·)

/-- What has been read about the whole pattern so far. -/
structure ParseState where
  rest : List Token
  /-- Options of the whole pattern. -/
  options : Options
  /-- Both kinds of text were asked for, or are. -/
  asciiSet : Bool := false
  unicodeSet : Bool := false
  /-- Repetitions are ruled out. -/
  template : Bool := false
  /-- A repetition has been read. -/
  repeats : Bool := false
  /-- Widths of the groups from number one on; none while a group is open. -/
  groups : List (Option Widths) := []
  names : List (String × Nat) := []
  /-- The number of groups before the outermost look behind that is being read. -/
  behind : Option Nat := none
  /-- Groups that conditions refer to. -/
  conditions : List Nat := []

abbrev Parse := StateT ParseState Option

namespace Parse

def refuse {α : Type} : Parse α := fun _ => none

def peek : Parse (Option Token) := do return (← get).rest.head?

/-- Takes the next token. -/
def next : Parse (Option Token) := do
  let s ← get
  match s.rest with
  | [] => return none
  | t :: r =>
    set { s with rest := r }
    return some t

/-- Takes the next token if it is this character. -/
def accept (c : Char) : Parse Bool := do
  if (← peek) = some (.plain c) then
    let _ ← next
    return true
  else return false

def expect (c : Char) : Parse Unit := do
  if ← accept c then return () else refuse

/-- Takes up to `n` characters of a kind. -/
def takeUpTo (n : Nat) (p : Char → Bool) : Parse (List Char) := do
  match n with
  | 0 => return []
  | n + 1 =>
    match ← peek with
    | some (.plain c) =>
      if p c then
        let _ ← next
        return c :: (← takeUpTo n p)
      else return []
    | _ => return []

/-- Takes all tokens up to a character, which is taken too. At least one must stand before it. -/
def takeUntil (stop : Char) : Parse (List Char) := do
  let s ← get
  let (name, rest) := s.rest.span (· ≠ .plain stop)
  if name.isEmpty || rest.isEmpty then refuse
  else
    set { s with rest := rest.tail }
    return name.flatMap fun
      | .plain c => [c]
      | .escaped c => ['\\', c]

end Parse

open Parse

def isOctal (c : Char) : Bool := '0' ≤ c && c ≤ '7'

def isHex (c : Char) : Bool :=
  c.isDigit || ('a' ≤ c && c ≤ 'f') || ('A' ≤ c && c ≤ 'F')

def digitValue (c : Char) : Nat :=
  if c.isDigit then c.toNat - 48 else if 'a' ≤ c then c.toNat - 87 else c.toNat - 55

def readBase (base : Nat) (ds : List Char) : Nat :=
  ds.foldl (fun n d => n * base + digitValue d) 0

/-- Control characters with an escape of their own. -/
def controlEscape? : Char → Option Nat
  | 'a' => some 7
  | 'f' => some 12
  | 'n' => some 10
  | 'r' => some 13
  | 't' => some 9
  | 'v' => some 11
  | '\\' => some 92
  | _ => none

def categoryEscape? : Char → Option SetItem
  | 'd' => some (.category .digit false)
  | 'D' => some (.category .digit true)
  | 's' => some (.category .space false)
  | 'S' => some (.category .space true)
  | 'w' => some (.category .word false)
  | 'W' => some (.category .word true)
  | _ => none

/-- A code point written with exactly `n` hexadecimal digits. -/
def hexCode (n : Nat) : Parse Nat := do
  let ds ← takeUpTo n isHex
  if ds.length = n then
    let code := readBase 16 ds
    if code < 0x110000 then return code else refuse
  else refuse

/-- A code point written as the name of a character in braces. -/
def namedCode : Parse Nat := do
  expect '\x7b'
  match Text.namedCode? (← takeUntil '\x7d') with
  | some n => return n
  | none => refuse

/-- A character escape that is read alike inside and outside of sets. -/
def commonEscape (c : Char) : Parse Nat := do
  match controlEscape? c with
  | some n => return n
  | none =>
    if c = 'x' then hexCode 2
    else if c = 'u' then hexCode 4
    else if c = 'U' then hexCode 8
    else if c = 'N' then namedCode
    else if c.isAlphanum then refuse
    else return c.toNat

/-- An escape inside a set. -/
def setEscape (c : Char) : Parse SetItem := do
  match categoryEscape? c with
  | some i => return i
  | none =>
    let code ← if c = 'b' then pure 8
      else if isOctal c then do
        let ds ← takeUpTo 2 isOctal
        let n := readBase 8 (c :: ds)
        if n ≤ 0o377 then pure n else refuse
      else commonEscape c
    return .range code code

/-- One end of what may be a range of a set. -/
def setMember : Token → Parse SetItem
  | .escaped c => setEscape c
  | .plain c => return .range c.toNat c.toNat

/-- A member that is no end of a range. -/
def alone (item : SetItem) : SetItem :=
  match item with
  | .range code _ => if planeEnd < code then .single code else item
  | item => item

/-- The members of a set up to its bracket; one that stands first belongs to the set. -/
def setItems (fuel : Nat) (done : List SetItem) : Parse (List SetItem) := do
  match fuel with
  | 0 => refuse
  | fuel + 1 =>
    match ← next with
    | none => refuse
    | some t =>
      if t = .plain ']' && !done.isEmpty then return done.reverse
      else
        let item ← setMember t
        if ← accept '-' then
          match ← next with
          | none => refuse
          | some u =>
            if u = .plain ']' then
              return (.range 45 45 :: alone item :: done).reverse
            else
              match item, ← setMember u with
              | .range lo _, .range hi _ =>
                if hi < lo then refuse else setItems fuel (.range lo hi :: done)
              | _, _ => refuse
        else setItems fuel (alone item :: done)

/-- The test of a set. One with a single member outside of the basic plane is the character. -/
def setTest (negated : Bool) (items : List SetItem) : CharTest :=
  match items.eraseDups with
  | [.single code] => if negated then .set true [.range code code] else .char code
  | _ => .set negated items

/-- A reference to a group that is closed and lies outside of the look behind being read. -/
def reference (o : Options) (number : Nat) : Parse Regex := do
  let s ← get
  match s.groups[number - 1]? with
  | some (some ws) =>
    if number = 0 || s.behind.any (fun n => n < number) then refuse
    else return .backReference o number ws
  | _ => refuse

/-- An escape outside of sets. -/
def escape (o : Options) (c : Char) : Parse Regex := do
  let literal (n : Nat) : Regex := .one o (.char n)
  match categoryEscape? c with
  | some i => return .one o (.set false [i])
  | none =>
    if c = 'A' then return .anchor o .textStart
    else if c = 'Z' then return .anchor o .textEnd
    else if c = 'b' then return .anchor o .wordEdge
    else if c = 'B' then return .anchor o .noWordEdge
    else if c = '0' then return literal (readBase 8 (← takeUpTo 2 isOctal))
    else if c.isDigit then
      match ← takeUpTo 1 Char.isDigit with
      | [] => reference o (digitValue c)
      | d :: _ =>
        if isOctal c && isOctal d then
          match ← takeUpTo 1 isOctal with
          | e :: _ =>
            let n := readBase 8 [c, d, e]
            if n ≤ 0o377 then return literal n else refuse
          | [] => reference o (readBase 10 [c, d])
        else reference o (readBase 10 [c, d])
    else return literal (← commonEscape c)

/-- Repetitions are counted below this bound, and looks behind go no further back. -/
def codeLimit : Nat := 4294967295

/-- The most digits of a number. -/
def digitLimit : Nat := 4300

/-- The bounds of a counted repetition behind its brace, or none if the brace is a character. -/
def counts : Parse (Option (Nat × Option Nat)) := do
  let s ← get
  let undo : Parse (Option (Nat × Option Nat)) := do
    set s
    return none
  if s.rest.head? = some (.plain '\x7d') then undo
  else
    let lo ← takeUpTo s.rest.length Char.isDigit
    let comma ← accept ','
    let hi ← if comma then takeUpTo s.rest.length Char.isDigit else pure lo
    if !(← accept '\x7d') then undo
    else
      let least := readBase 10 lo
      let most := if hi.isEmpty then none else some (readBase 10 hi)
      if digitLimit < lo.length || digitLimit < hi.length || codeLimit ≤ least
          || most.any (fun m => codeLimit ≤ m || m < least) then refuse
      else return some (least, most)

/-- Options written behind `(?`. -/
structure OptionChange where
  added : List Char := []
  removed : List Char := []

def isOptionLetter (c : Char) : Bool := "imsxatuL".toList.contains c

/-- Reads option letters from `c` on. None if they hold for the whole pattern. -/
def optionLetters (fuel : Nat) (removing : Bool) (change : OptionChange) (c : Char) :
    Parse (Bool × OptionChange) := do
  match fuel with
  | 0 => refuse
  | fuel + 1 =>
    if c = ')' then
      if removing then refuse else return (true, change)
    else if c = ':' then
      if (removing && change.removed.isEmpty) || change.added.contains 't'
          || change.removed.contains 't' || change.added.any change.removed.contains then refuse
      else return (false, change)
    else if c = '-' then
      if removing then refuse
      else match ← next with
        | some (.plain d) =>
          if isOptionLetter d then optionLetters fuel true change d else refuse
        | _ => refuse
    else if c = 'L' || !isOptionLetter c then refuse
    else
      let change ← if removing then
          if c = 'a' || c = 'u' then refuse else pure { change with removed := c :: change.removed }
        else pure { change with added := c :: change.added }
      if change.added.contains 'a' && change.added.contains 'u' then refuse
      else match ← next with
        | some (.plain d) => optionLetters fuel removing change d
        | _ => refuse

def OptionChange.apply (change : OptionChange) (o : Options) : Options where
  ignoreCase := (o.ignoreCase || change.added.contains 'i') && !change.removed.contains 'i'
  multiline := (o.multiline || change.added.contains 'm') && !change.removed.contains 'm'
  dotAll := (o.dotAll || change.added.contains 's') && !change.removed.contains 's'
  verbose := (o.verbose || change.added.contains 'x') && !change.removed.contains 'x'
  ascii := if change.added.contains 'a' then true
    else if change.added.contains 'u' then false else o.ascii

def isName (s : List Char) : Bool :=
  match s with
  | c :: r => Text.isIdentifierStart c && r.all Text.isIdentifierContinue
  | [] => false

/-- Opens a group and gives its number. A name may be used once. -/
def openGroup (name : Option String) : Parse Nat := do
  let s ← get
  let number := s.groups.length + 1
  match name with
  | some n =>
    if (s.names.lookup n).isSome then refuse
    else set { s with groups := s.groups ++ [none], names := s.names ++ [(n, number)] }
  | none => set { s with groups := s.groups ++ [none] }
  return number

def closeGroup (number : Nat) (body : Regex) : Parse Unit :=
  modify fun s => { s with groups := s.groups.set (number - 1) (some body.widths) }

/-- What a repetition sign may follow. -/
inductive Last where
  | nothing
  | anchor
  | repetition
  | item
  deriving DecidableEq

/-- The items of an expression: those of its groups are its own. A group with options of its own,
which stands behind an empty expression, is one item. -/
def Regex.items : Regex → List Regex
  | .empty => []
  | .seq .empty r => [.seq .empty r]
  | .seq a b => a.items ++ b.items
  | r => [r]

/-- A sequence under construction: its items in reverse and what the last one was. -/
structure Items where
  items : List Regex := []
  last : Last := .nothing

def Items.push (s : Items) (r : Regex) : Items := ⟨r :: s.items, .item⟩

/-- The items of a sequence in order. -/
def Items.inOrder (s : Items) : List Regex := s.items.reverse.flatMap Regex.items

/-- Items in order as one expression. -/
def regexOf (items : List Regex) : Regex :=
  items.reverse.foldl (fun done r => match done with
    | .empty => r
    | done => .seq r done) .empty

/-- An item that is the same wherever it is written in the same way. -/
def Regex.isPlain : Regex → Bool
  | .one _ _ | .anchor _ _ | .backReference _ _ _ => true
  | _ => false

/-- The items that all of some sequences begin with, and what is left of the sequences. -/
def commonItems (fuel : Nat) (branches : List (List Regex)) : List Regex × List (List Regex) :=
  match fuel, branches with
  | fuel + 1, (r :: _) :: _ =>
    if r.isPlain && branches.all (·.head? = some r) then
      let (shared, rests) := commonItems fuel (branches.map List.tail)
      (r :: shared, rests)
    else ([], branches)
  | _, _ => ([], branches)

/-- The members of a set that a sequence of one item stands for. -/
def setMembers? : List Regex → Option (List SetItem)
  | [.one _ (.char code)] => some [alone (.range code code)]
  | [.one _ (.set false items)] => some items
  | _ => none

/-- Alternatives. What all of them begin with is taken out; characters and sets make one set. -/
def joinBranches (o : Options) (branches : List (List Regex)) : Regex :=
  match branches with
  | [items] => regexOf items
  | branches =>
    let (shared, rests) := commonItems (branches.flatten.length + 1) branches
    match rests.mapM setMembers? with
    | some sets => regexOf (shared ++ [.one o (.set false sets.flatten)])
    | none =>
      match rests.reverse with
      | [] => regexOf shared
      | last :: before => regexOf (shared ++
          [before.foldl (fun done items => .alt (regexOf items) done) (regexOf last)])

/-- The sign behind a repetition that tells how much it takes. -/
def modeSign : Parse Mode := do
  match ← peek with
  | some (.plain '?') =>
    let _ ← next
    return .lazy
  | some (.plain '+') =>
    let _ ← next
    return .possessive
  | _ => return .greedy

/-- Puts a repetition around the last item. -/
def repeatLast (s : Items) (least : Nat) (most : Option Nat) : Parse Items := do
  match s.items, s.last with
  | r :: rs, .item =>
    let mode ← modeSign
    modify fun s => { s with repeats := true }
    return ⟨.repetition least most mode r :: rs, .repetition⟩
  | _, _ => refuse

/-- White space around a group number, to which the information separators do not belong. -/
def isNumberMargin (c : Char) : Bool := Text.isBlank c && !(28 ≤ c.toNat && c.toNat < 32)

/-- The group number of a condition, in decimal digits of any script. -/
def groupNumber? (s : List Char) : Option Nat := do
  let bare := ((s.dropWhile isNumberMargin).reverse.dropWhile isNumberMargin).reverse
  let unsigned := match bare with
    | '+' :: r => r
    | r => r
  let ds ← Text.groupedDigits? false unsigned
  if digitLimit < ds.length then none
  else
    let n := ds.foldl (fun n d => n * 10 + d) 0
    if n = 0 then none else some n

/-- The group that a condition asks for, by its name or its number. -/
def conditionNumber (name : List Char) : Parse Nat := do
  if isName name then
    match (← get).names.lookup (String.ofList name) with
    | some n => return n
    | none => refuse
  else
    match groupNumber? name with
    | some n =>
      modify fun s => { s with conditions := n :: s.conditions }
      return n
    | none => refuse

/-- The sign of a look behind: whether it wants no match. -/
def lookSign : Parse Bool := do
  match ← next with
  | some (.plain '=') => return false
  | some (.plain '!') => return true
  | _ => refuse

/-- Inside a look behind, a condition needs a group closed before it. -/
def checkCondition (number : Nat) : Parse Unit := do
  let s ← get
  match s.behind with
  | none => return ()
  | some n =>
    match s.groups[number - 1]? with
    | some (some _) => if n < number then refuse else return ()
    | _ => refuse

/-- Skips a comment up to its parenthesis. -/
def skipComment : Parse Unit := do
  let s ← get
  match s.rest.dropWhile (· ≠ .plain ')') with
  | [] => refuse
  | _ :: r => set { s with rest := r }

/-- Skips a comment up to the end of its line. -/
def skipLine : Parse Unit :=
  modify fun s => { s with rest := (s.rest.dropWhile (· ≠ .plain '\n')).tail }

mutual

/-- Alternatives between bars. -/
def alternatives (fuel : Nat) (o : Options) (nested : Bool) : Parse Regex := do
  match fuel with
  | 0 => refuse
  | fuel + 1 =>
    let items ← sequence fuel o (!nested) {}
    otherAlternatives fuel o nested [items]

/-- Further alternatives behind the ones read, which are given in reverse. -/
def otherAlternatives (fuel : Nat) (o : Options) (nested : Bool) (done : List (List Regex)) :
    Parse Regex := do
  match fuel with
  | 0 => refuse
  | fuel + 1 =>
    let o ← if nested then pure o else do pure (← get).options
    if ← accept '|' then
      let items ← sequence fuel o false {}
      otherAlternatives fuel o nested (items :: done)
    else return joinBranches o done.reverse

/-- Items up to a bar, a parenthesis or the end. `atStart` allows options of the whole pattern. -/
def sequence (fuel : Nat) (o : Options) (atStart : Bool) (done : Items) :
    Parse (List Regex) := do
  match fuel with
  | 0 => refuse
  | fuel + 1 =>
    match ← peek with
    | none => return done.inOrder
    | some (.escaped c) =>
      let _ ← next
      let r ← escape o c
      match r with
      | .anchor _ _ => sequence fuel o atStart { done.push r with last := .anchor }
      | r => sequence fuel o atStart (done.push r)
    | some (.plain c) =>
      if c = '|' || c = ')' then return done.inOrder
      else
        let _ ← next
        if o.verbose && (c = ' ' || (9 ≤ c.toNat && c.toNat ≤ 13)) then sequence fuel o atStart done
        else if o.verbose && c = '#' then
          skipLine
          sequence fuel o atStart done
        else match c with
        | '.' => sequence fuel o atStart (done.push (.one o .any))
        | '^' => sequence fuel o atStart { done.push (.anchor o .lineStart) with last := .anchor }
        | '$' => sequence fuel o atStart { done.push (.anchor o .lineEnd) with last := .anchor }
        | '*' => sequence fuel o atStart (← repeatLast done 0 none)
        | '+' => sequence fuel o atStart (← repeatLast done 1 none)
        | '?' => sequence fuel o atStart (← repeatLast done 0 (some 1))
        | '\x7b' =>
          match ← counts with
          | some (least, most) => sequence fuel o atStart (← repeatLast done least most)
          | none => sequence fuel o atStart (done.push (.one o (.char c.toNat)))
        | '[' =>
          let negated ← accept '^'
          let items ← setItems ((← get).rest.length + 1) []
          sequence fuel o atStart (done.push (.one o (setTest negated items)))
        | '(' => group fuel o atStart done
        | c => sequence fuel o atStart (done.push (.one o (.char c.toNat)))

/-- A group behind its parenthesis, and the rest of the sequence. -/
def group (fuel : Nat) (o : Options) (atStart : Bool) (done : Items) :
    Parse (List Regex) := do
  match fuel with
  | 0 => refuse
  | fuel + 1 =>
    let capturing (name : Option String) : Parse (List Regex) := do
      let number ← openGroup name
      let body ← alternatives fuel o true
      expect ')'
      closeGroup number body
      sequence fuel o atStart (done.push (.capture number body))
    if !(← accept '?') then capturing none
    else match ← next with
      | some (.plain 'P') =>
        match ← next with
        | some (.plain '<') =>
          let name ← takeUntil '>'
          if isName name then capturing (some (String.ofList name)) else refuse
        | some (.plain '=') =>
          let name ← takeUntil ')'
          match (← get).names.lookup (String.ofList name) with
          | some n => do
            let r ← reference o n
            sequence fuel o atStart (done.push r)
          | none => refuse
        | _ => refuse
      | some (.plain ':') =>
        let body ← alternatives fuel o true
        expect ')'
        sequence fuel o atStart (done.push body)
      | some (.plain '#') =>
        skipComment
        sequence fuel o atStart done
      | some (.plain '=') =>
        let body ← alternatives fuel o true
        expect ')'
        sequence fuel o atStart (done.push (.look none false body))
      | some (.plain '!') =>
        let body ← alternatives fuel o true
        expect ')'
        sequence fuel o atStart (done.push (.look none true body))
      | some (.plain '<') =>
        let negated ← lookSign
        let outer := (← get).behind
        modify fun s => { s with behind := some (outer.getD s.groups.length) }
        let body ← alternatives fuel o true
        modify fun s => { s with behind := outer }
        expect ')'
        let (lo, hi) := body.widths
        if hi = some lo && lo ≤ codeLimit then
          sequence fuel o atStart (done.push (.look (some lo) negated body))
        else refuse
      | some (.plain '(') =>
        let number ← conditionNumber (← takeUntil ')')
        checkCondition number
        let yes ← sequence fuel o false {}
        let no ← if ← accept '|' then sequence fuel o false {} else pure []
        expect ')'
        sequence fuel o atStart (done.push (.conditional number (regexOf yes) (regexOf no)))
      | some (.plain '>') =>
        let body ← alternatives fuel o true
        expect ')'
        sequence fuel o atStart (done.push (.atomic body))
      | some (.plain c) =>
        if c = '-' || isOptionLetter c then
          let (whole, change) ← optionLetters ((← get).rest.length + 2) false {} c
          if whole then
            if !atStart || !done.items.isEmpty then refuse
            else
              modify fun s => { s with
                options := change.apply s.options
                asciiSet := s.asciiSet || change.added.contains 'a'
                unicodeSet := s.unicodeSet || change.added.contains 'u'
                template := s.template || change.added.contains 't' }
              sequence fuel (change.apply o) atStart done
          else
            let body ← alternatives fuel (change.apply o) true
            expect ')'
            sequence fuel o atStart (done.push (.seq .empty body))
        else refuse
      | _ => refuse

end

/-- The regular expression of a pattern under the given options. -/
def parse? (o : Options) (pattern : String) : Option Regex := do
  let ts ← tokens? pattern.toList
  let (r, s) ← (alternatives (4 * ts.length + 8) o false).run { rest := ts, options := o }
  if !s.rest.isEmpty || (s.asciiSet && s.unicodeSet) || (s.template && s.repeats)
      || s.conditions.any (fun n => s.groups.length < n) then none
  else some r

end Exposure.Pattern
