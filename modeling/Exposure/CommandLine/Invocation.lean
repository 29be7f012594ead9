import Exposure.CommandLine.Reading
import Exposure.Log

/-!
The command line of the program: options that say how much is logged, then a command with options
and values of its own.
-/
namespace Exposure.CommandLine

inductive Command where
  | generate (outDir : Option String)
  /-- Lists the symbols under a purpose, classes or methods. -/
  | query (pattern : String) (artifactsDir : Option String) (methods ancestors : Bool)
  | validate (artifactsDir : Option String)
  | verify (artifactsDir : Option String)
  deriving DecidableEq

/-- The directory that a command names. -/
def Command.directory? : Command → Option String
  | .generate outDir => outDir
  | .query _ given _ _ => given
  | .validate given => given
  | .verify given => given

structure Invocation where
  /-- Lines below this level are not shown. -/
  level : LogLevel := .warning
  root : String := "."
  command : Command
  deriving DecidableEq

namespace Invocation

def helpOption : OptionSpec := ⟨["-h", "--help"], .help, []⟩

/-- Options before the command. -/
def commonOptions : List OptionSpec :=
  [helpOption, ⟨["-v", "--verbose"], .mark, ["-q"]⟩, ⟨["-q", "--quiet"], .mark, ["-v"]⟩]

def artifactsDirOption : OptionSpec := ⟨["--artifacts-dir"], .value, []⟩

def queryOptions : List OptionSpec :=
  [helpOption, artifactsDirOption, ⟨["--methods"], .mark, []⟩, ⟨["--include-parents"], .mark, []⟩]

/-- The level from which on lines are shown. -/
def levelOf (r : Reading) : LogLevel :=
  if r.has "-v" then .debug else if r.has "-q" then .error else .warning

/-- What a slot holds, if it is filled with a value. -/
def slotValue? (r : Reading) (index : Nat) : Option String := (r.filled[index]?).bind List.head?

/-- The command with a name that further words make, the root of the repository and the words that
are left over. -/
def commandOf (name : String) (texts : List String) :
    Except Stop (Command × String × List String) := do
  let artifactsDir (r : Reading) : Option String := r.value? "--artifacts-dir"
  let withRoot (r : Reading) (index : Nat) (c : Command) : Command × String × List String :=
    (c, (slotValue? r index).getD ".", r.extra)
  match name with
  | "generate" =>
    let r ← Reading.ofTexts [helpOption, ⟨["--out-dir"], .value, []⟩] [.optional] texts
    return withRoot r 0 (.generate (r.value? "--out-dir"))
  | "query" =>
    let r ← Reading.ofTexts queryOptions [.one, .optional] texts
    return withRoot r 1 (.query ((slotValue? r 0).getD "") (artifactsDir r) (r.has "--methods")
      (r.has "--include-parents"))
  | "validate" =>
    let r ← Reading.ofTexts [helpOption, artifactsDirOption] [.optional] texts
    return withRoot r 0 (.validate (artifactsDir r))
  | "verify" =>
    let r ← Reading.ofTexts [helpOption, artifactsDirOption] [.optional] texts
    return withRoot r 0 (.verify (artifactsDir r))
  | _ => throw .usage

/-- What the words of a command line ask for. -/
def ofTexts (texts : List String) : Except Stop Invocation := do
  let r ← Reading.ofTexts commonOptions [.all] texts
  match r.filled.flatten with
  | [] => throw .usage
  | name :: texts =>
    let (command, root, extra) ← commandOf name texts
    if r.extra.isEmpty && extra.isEmpty then return { level := levelOf r, root, command }
    else throw .usage

end Invocation
end Exposure.CommandLine
