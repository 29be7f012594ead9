/-!
Log lines. Levels are ordered; a reader of the log may drop the lines below a level.
-/
namespace Exposure

inductive LogLevel where
  | debug
  | info
  | warning
  | error
  deriving DecidableEq

namespace LogLevel

def rank : LogLevel → Nat
  | debug => 0
  | info => 1
  | warning => 2
  | error => 3

def name : LogLevel → String
  | debug => "DEBUG"
  | info => "INFO"
  | warning => "WARNING"
  | error => "ERROR"

end LogLevel

structure LogLine where
  level : LogLevel
  message : String
  deriving DecidableEq

namespace LogLine

def text (l : LogLine) : String := l.level.name ++ " " ++ l.message

/-- The lines at the level or above it. -/
def atLeast (level : LogLevel) (ls : List LogLine) : List LogLine :=
  ls.filter fun l => level.rank ≤ l.level.rank

end LogLine
end Exposure
