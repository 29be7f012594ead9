/-!
Method filters: sets of flags. The flags for access, statics, final and abstract methods select the
methods that carry any of them; the others narrow the selection. The same sets serve as the
modifiers that a method carries. A number gives a set by its bits, of which undefined ones are
dropped.
-/
namespace Exposure

structure MethodFilter where
  bits : Nat
  deriving DecidableEq, Inhabited

namespace MethodFilter

def empty : MethodFilter := ⟨0⟩

def publicAccess : MethodFilter := ⟨1⟩

def protectedAccess : MethodFilter := ⟨2⟩

def privateAccess : MethodFilter := ⟨4⟩

def static : MethodFilter := ⟨16⟩

def final : MethodFilter := ⟨32⟩

def abstract : MethodFilter := ⟨64⟩

/-- Methods of instances alone. -/
def objective : MethodFilter := ⟨2048⟩

/-- No methods with magic names. -/
def excludeMagic : MethodFilter := ⟨4096⟩

/-- Only methods with a purpose. -/
def purposedOnly : MethodFilter := ⟨8192⟩

/-- The single flags with their names, by rising bits. -/
def flags : List (String × MethodFilter) := [
  ("PUBLIC", publicAccess), ("PROTECTED", protectedAccess), ("PRIVATE", privateAccess),
  ("STATIC", static), ("FINAL", final), ("ABSTRACT", abstract), ("OBJECTIVE", objective),
  ("EXCLUDE_MAGIC", excludeMagic), ("PURPOSED_ONLY", purposedOnly)]

def union (f g : MethodFilter) : MethodFilter := ⟨f.bits ||| g.bits⟩

def inter (f g : MethodFilter) : MethodFilter := ⟨f.bits &&& g.bits⟩

/-- Flags that are in one of the sets alone. -/
def exclusive (f g : MethodFilter) : MethodFilter := ⟨f.bits ^^^ g.bits⟩

def isEmpty (f : MethodFilter) : Bool := f.bits = 0

/-- The two sets have a flag in common. -/
def meets (f g : MethodFilter) : Bool := !(f.inter g).isEmpty

def ofList (fs : List MethodFilter) : MethodFilter := fs.foldl union empty

/-- All flags. -/
def all : MethodFilter := ofList (flags.map (·.2))

def complement (f : MethodFilter) : MethodFilter := all.exclusive f

/-- The flag when a condition holds. -/
def flagIf (condition : Bool) (f : MethodFilter) : MethodFilter := if condition then f else empty

/-- Flags that select methods by what these carry, and the unions on the way to all of them. -/
def modifierUnions : List MethodFilter :=
  [protectedAccess, privateAccess, static, abstract, final].foldl
    (fun us f => us ++ [(us.getLast?.getD empty).union f]) [publicAccess]

/-- All flags that select methods by what these carry. -/
def modifiers : MethodFilter :=
  ofList [publicAccess, protectedAccess, privateAccess, static, abstract, final]

/-- Names of sets with more than one flag. -/
def combinations : List (String × MethodFilter) := [
  ("PUBLIC_STATIC", publicAccess.union static), ("PUBLIC_OBJECTIVE", publicAccess.union objective)]

/-- Sets that have a name or that the modifiers are put together from. -/
def familiar : List MethodFilter :=
  empty :: (flags ++ combinations).map (·.2) ++ modifierUnions

def ofName? (name : String) : Option MethodFilter := (flags ++ combinations).lookup name

/-- The set that the bits of a number stand for, a negative one in two's complement. -/
def ofInt (n : Int) : MethodFilter := ⟨(n % 16384).toNat &&& all.bits⟩

/-- The flags of a set with their names. -/
def members (f : MethodFilter) : List (String × MethodFilter) := flags.filter fun g => f.meets g.2

/-- What abstract classes that set no filter of their own are read with. -/
def standard : MethodFilter := publicAccess.union excludeMagic

/-- The text of a set: the names of its flags, or that of the whole set if it has one. -/
def display (f : MethodFilter) : String :=
  let name := match combinations.find? (·.2 = f) with
    | some c => some c.1
    | none => if f.isEmpty then none else some ("|".intercalate (f.members.map (·.1)))
  match name with
  | some n => "MethodFilter." ++ n
  | none => "MethodFilter(0)"

theorem meets_comm (f g : MethodFilter) : f.meets g = g.meets f := by
  simp [meets, inter, Nat.and_comm]

theorem empty_meets (f : MethodFilter) : empty.meets f = false := by
  simp [meets, inter, empty, isEmpty]

end MethodFilter
end Exposure
