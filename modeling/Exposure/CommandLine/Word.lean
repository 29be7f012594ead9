import Exposure.Text.Letter
import Exposure.Text.Split

/-!
The words of a command line. A word names an option of the command, is the separator behind which
no word names an option, or is a value. An option is named by one of its names, by a beginning of a
long name that no other long name has, with a value behind an equals sign, or with more letters
behind a short name. What only looks like an option is a stray word; negative numbers and words with
blanks do not look like one.
-/
namespace Exposure.CommandLine

/-- What an option does. -/
inductive Effect where
  | help
  /-- It sets a mark. -/
  | mark
  /-- It takes a value. -/
  | value
  deriving DecidableEq

structure OptionSpec where
  /-- A short name has one dash and one letter, a long name two dashes. -/
  names : List String
  effect : Effect
  /-- First names of the options that it does not go with. -/
  excludes : List String := []
  deriving DecidableEq

/-- The name that an option is known by. -/
def OptionSpec.key (o : OptionSpec) : String := o.names.headD ""

/-- Why a command line is not carried out. -/
inductive Stop where
  /-- Help is asked for. -/
  | help
  /-- The words do not fit the command. -/
  | usage
  deriving DecidableEq

inductive WordKind where
  | value
  | separator
  /-- An option, with the text behind its name, an equals sign included. -/
  | option (o : OptionSpec) (attached : List Char)
  | stray
  deriving DecidableEq

structure Word where
  text : String
  kind : WordKind
  deriving DecidableEq

namespace Word

def separatorText : String := "--"

def isValue (w : Word) : Bool := w.kind = .value

def isSeparator (w : Word) : Bool := w.kind = .separator

/-- The word is an option or looks like one. -/
def isOption (w : Word) : Bool := !w.isValue && !w.isSeparator

/-- The option with a name. -/
def optionNamed? (options : List OptionSpec) (name : String) : Option OptionSpec :=
  options.find? (·.names.contains name)

/-- A text in two, the second part from the first equals sign on. -/
def cutAtEquals (text : String) : String × List Char :=
  (String.ofList (text.toList.takeWhile (· ≠ '=')), text.toList.dropWhile (· ≠ '='))

/-- The options that a text can stand for besides those that it names in full. -/
def candidates (options : List OptionSpec) (text : String) : List WordKind :=
  let named := options.flatMap fun o => o.names.map fun n => (n, o)
  match text.toList with
  | '-' :: '-' :: _ =>
    let (start, attached) := cutAtEquals text
    (named.filter fun n => start.toList.isPrefixOf n.1.toList).map fun n => .option n.2 attached
  | '-' :: c :: letters =>
    (named.filter fun n => n.1.toList = ['-', c]).map fun n => .option n.2 letters
  | _ => []

/-- The text is a negative number, with or without decimal places; a line break may follow. -/
def isNegativeNumber (text : String) : Bool :=
  let digits (s : List Char) : Bool := !s.isEmpty && s.all Text.isDecimal
  let body (s : List Char) : Bool :=
    digits s || match Text.cutFirst ['.'] s with
      | some (whole, places) => whole.all Text.isDecimal && digits places
      | none => false
  match text.toList with
  | '-' :: s => body s || (s.getLast? = some '\n' && body s.dropLast)
  | _ => false

/-- What a word is, unless it is the beginning of more than one long name. -/
def kindOf (options : List OptionSpec) (text : String) : Except Stop WordKind :=
  if text.toList.head? ≠ some '-' || text = "-" then .ok .value
  else
    let (name, attached) := cutAtEquals text
    match optionNamed? options name, candidates options text with
    | some o, _ => .ok (.option o attached)
    | none, [k] => .ok k
    | none, [] =>
      .ok (if isNegativeNumber text || text.toList.contains ' ' then .value else .stray)
    | none, _ => .error .usage

/-- The words of a command line. -/
def ofTexts (options : List OptionSpec) : List String → Except Stop (List Word)
  | [] => .ok []
  | text :: texts =>
    if text = separatorText then .ok (⟨text, .separator⟩ :: texts.map fun t => ⟨t, .value⟩)
    else do
      let kind ← kindOf options text
      let words ← ofTexts options texts
      return ⟨text, kind⟩ :: words

end Word
end Exposure.CommandLine
