import Exposure.CommandLine.Word

/-!
Reading a command line: its options in order, and its values, which fill the slots of the command in
order. A run of values between two options fills as many slots as it can, and a slot that may stay
empty counts as filled then; values without a slot and stray words are left over.
-/
namespace Exposure.CommandLine

/-- A place for values. -/
inductive Slot where
  | one
  /-- One value or none. -/
  | optional
  /-- A value and all that follows, options too. -/
  | all
  deriving DecidableEq

/-- What has been read. -/
structure Reading where
  /-- The options by their keys, with the values of those that take one. -/
  options : List (String × String) := []
  /-- The values in each filled slot. -/
  filled : List (List String) := []
  /-- Words that nothing takes. -/
  extra : List String := []
  deriving DecidableEq

namespace Slot

/-- The words that fill a slot, and those behind them. Separators around a value belong to it. -/
def fill? (words : List Word) : Slot → Option (List Word × List Word)
  | one =>
    match words.dropWhile Word.isSeparator with
    | w :: ws =>
      if w.isValue then
        some (words.takeWhile Word.isSeparator ++ w :: ws.takeWhile Word.isSeparator,
          ws.dropWhile Word.isSeparator)
      else none
    | [] => none
  | optional =>
    match words.dropWhile Word.isSeparator with
    | w :: ws =>
      if w.isValue then
        some (words.takeWhile Word.isSeparator ++ w :: ws.takeWhile Word.isSeparator,
          ws.dropWhile Word.isSeparator)
      else some (words.takeWhile Word.isSeparator, w :: ws)
    | [] => some (words, [])
  | all =>
    match words.dropWhile Word.isSeparator with
    | w :: _ => if w.isValue then some (words, []) else none
    | [] => none

/-- The values in the words of a slot; the first separator is not among them. -/
def values (words : List Word) : Slot → List String
  | all => words.map (·.text)
  | _ => (words.map (·.text)).erase Word.separatorText

/-- Fills as many slots as the words do, and gives the values, the open slots and the other
words. -/
def fillAll : List Slot → List Word → List (List String) × List Slot × List Word
  | [], words => ([], [], words)
  | s :: slots, words =>
    match s.fill? words with
    | none => ([], s :: slots, words)
    | some (taken, words) =>
      let (filled, slots, words) := fillAll slots words
      (s.values taken :: filled, slots, words)

end Slot

namespace Reading

/-- The options in one word, the last perhaps with a value. An option that takes no value cannot
have one behind an equals sign. -/
def optionsIn (options : List OptionSpec) (o : OptionSpec) :
    List Char → Except Stop (List (OptionSpec × Option String))
  | [] => .ok [(o, none)]
  | c :: letters =>
    if o.effect = .value then
      .ok [(o, some (String.ofList (if c = '=' then letters else c :: letters)))]
    else
      match Word.optionNamed? options (String.ofList ['-', c]) with
      | some p => (optionsIn options p letters).map ((o, none) :: ·)
      | none => .error .usage

/-- Takes note of an option. -/
def give (r : Reading) (o : OptionSpec) (value : Option String) : Except Stop Reading :=
  match o.effect with
  | .help => .error .help
  | _ =>
    if r.options.any fun given => o.excludes.contains given.1 then .error .usage
    else .ok { r with options := r.options ++ [(o.key, value.getD "")] }

def giveAll (r : Reading) (given : List (OptionSpec × Option String)) : Except Stop Reading :=
  given.foldlM (fun r g => r.give g.1 g.2) r

/-- The last of these options waits for a value. -/
def awaitsValue (given : List (OptionSpec × Option String)) : Bool :=
  given.getLast?.any fun g => g.1.effect = .value && g.2.isNone

/-- The options with a value for the last of them. -/
def withValue (given : List (OptionSpec × Option String)) (value : String) :
    List (OptionSpec × Option String) :=
  given.dropLast ++ given.getLast?.toList.map fun g => (g.1, some value)

/-- Reads the words of a command line after what has been read; the open slots come with it. -/
def readWords (options : List OptionSpec) (r : Reading) (slots : List Slot) :
    List Word → Except Stop (Reading × List Slot)
  | [] =>
    let (filled, slots, _) := Slot.fillAll slots []
    .ok ({ r with filled := r.filled ++ filled }, slots)
  | w :: ws =>
    match w.kind with
    | .option o attached => do
      let given ← optionsIn options o attached
      if awaitsValue given then
        match ws with
        | v :: ws =>
          if v.isValue then
            readWords options (← r.giveAll (withValue given v.text)) slots ws
          else throw .usage
        | [] => throw .usage
      else readWords options (← r.giveAll given) slots ws
    | .stray => readWords options { r with extra := r.extra ++ [w.text] } slots ws
    | _ =>
      let (filled, slots', rest) := Slot.fillAll slots (w :: ws)
      let r := { r with filled := r.filled ++ filled }
      if rest.length < (w :: ws).length then readWords options r slots' rest
      else
        let skipped := w :: ws.takeWhile fun v => !v.isOption
        readWords options { r with extra := r.extra ++ skipped.map (·.text) } slots'
          (ws.dropWhile fun v => !v.isOption)
termination_by words => words.length
decreasing_by
  · simp only [List.length_cons]; omega
  · simp
  · simp
  · assumption
  · have h : (ws.dropWhile fun v => !v.isOption).length ≤ ws.length :=
      (List.dropWhile_sublist _).length_le
    simp only [List.length_cons]; omega

/-- Reads the texts of a command line; every slot that needs a value has to be filled. -/
def ofTexts (options : List OptionSpec) (slots : List Slot) (texts : List String) :
    Except Stop Reading := do
  let (r, unfilled) ← readWords options {} slots (← Word.ofTexts options texts)
  if unfilled.isEmpty then return r else throw .usage

/-- The option is set. -/
def has (r : Reading) (key : String) : Bool := r.options.any (·.1 = key)

/-- The value of an option; of repeated ones the last counts. -/
def value? (r : Reading) (key : String) : Option String :=
  ((r.options.filter (·.1 = key)).getLast?).map (·.2)

end Reading
end Exposure.CommandLine
