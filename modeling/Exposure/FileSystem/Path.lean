import Exposure.Text.Split

/-!
Paths as text takes them apart: a root, which may be empty, and components without the empty ones
and the single dots. Two dots stay as they are, since what they mean depends on links.
-/
namespace Exposure

structure Path where
  /-- Empty for a relative path; two slashes at the very start are a root of their own. -/
  root : String := ""
  parts : List String := []
  deriving DecidableEq, Inhabited

namespace Path

/-- The root at the start of a text. -/
def rootOf : List Char → String
  | '/' :: '/' :: '/' :: _ => "/"
  | '/' :: '/' :: _ => "//"
  | '/' :: _ => "/"
  | _ => ""

def ofString (s : String) : Path :=
  ⟨rootOf s.toList, (Text.splitString '/' s).filter fun p => p ≠ "" ∧ p ≠ "."⟩

/-- The written form; the empty relative path is a dot. -/
def toString (p : Path) : String :=
  if p.root = "" ∧ p.parts = [] then "." else p.root ++ "/".intercalate p.parts

instance : ToString Path := ⟨toString⟩

def isAbsolute (p : Path) : Bool := p.root ≠ ""

/-- The second path seen from the first; an absolute one stands for itself. -/
def join (p q : Path) : Path := if q.isAbsolute then q else ⟨p.root, p.parts ++ q.parts⟩

/-- One more component. -/
def child (p : Path) (name : String) : Path := ⟨p.root, p.parts ++ [name]⟩

def parent (p : Path) : Path := ⟨p.root, p.parts.dropLast⟩

/-- The path as far as its first so many components. -/
def upTo (p : Path) (n : Nat) : Path := ⟨p.root, p.parts.take n⟩

/-- The last component, empty if there is none. -/
def name (p : Path) : String := p.parts.getLast?.getD ""

/-- The components of `p` below `base`, if it lies there as a text. -/
def relativeTo? (p base : Path) : Option Path :=
  if p.root = base.root ∧ base.parts.isPrefixOf p.parts then
    some ⟨"", p.parts.drop base.parts.length⟩
  else none

/-- An absolute path from its components. -/
def absolute (parts : List String) : Path := ⟨"/", parts⟩

/-- The text holds the character that no path may hold. -/
def hasNul (p : Path) : Bool := p.parts.any fun s => s.toList.contains (Char.ofNat 0)

end Path
end Exposure
