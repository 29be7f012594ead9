import Exposure.Discovery.Merge
import Exposure.Purpose.Tree

/-!
Questions to the result of a discovery, while the classes that it found are still at hand.
-/
namespace Exposure.Discovery

/-- The names of all classes that were found, exposed or not. -/
def classNames (d : Discovery) : List String := Assoc.keys d.reflections

def class? (d : Discovery) (name : String) : Option Class := Assoc.get? name d.reflections

/-- What is asked for in methods of a class, without those with magic names if wanted. -/
def methodOptions (options : MethodFilter) (excludeMagic : Bool) : MethodFilter :=
  if excludeMagic then options.union .excludeMagic else options

/-- The methods that a class declares itself and that a filter lets through, under their qualified
names; of methods with one name the last counts, in the place of the first. -/
def methodsOf (c : Class) (className : String) (options : MethodFilter) :
    List (String × DeclaredMethod) :=
  (c.declaredMethods.filter (·.passes options)).foldl
    (fun ms m => Assoc.put (joinMethodName className m.name) m ms) []

/-- The methods of a class by its name, if there is such a class. -/
def findMethods (d : Discovery) (className : String) (options : MethodFilter)
    (excludeMagic : Bool) : Option (List (String × DeclaredMethod)) :=
  (d.class? className).map fun c => methodsOf c className (methodOptions options excludeMagic)

/-- The classes under a purpose. -/
def findClasses (d : Discovery) (pattern : String) (ancestors : Bool) :
    Except PurposeTree.Fault (List PurposeTree.Hit) :=
  d.index.classPurposes.search pattern ancestors

/-- The methods under a purpose. -/
def findMethodsByPurpose (d : Discovery) (pattern : String) (ancestors : Bool) :
    Except PurposeTree.Fault (List PurposeTree.Hit) :=
  d.index.methodPurposes.search pattern ancestors

def exposedClassNames (d : Discovery) : List String := d.index.classes.keys

def exposedMethodNames (d : Discovery) : List String := d.index.methods.keys

/-- What a name stands for in the file of an exposed class: what it imports under this name, or
else the name itself. -/
def qualify? (d : Discovery) (name className : String) : Option String :=
  (d.index.classes.get? className).map fun r => (Assoc.get? name r.importAliases).getD name

/-- The group that an exposed class belongs to. -/
def moduleNameOf? (d : Discovery) (className : String) : Option String :=
  (d.index.classes.get? className).bind (·.moduleName)

end Exposure.Discovery
