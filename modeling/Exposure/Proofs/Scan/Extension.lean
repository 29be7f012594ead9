import Exposure.Proofs.FileSystem.Extension
import Exposure.Proofs.Scan.Roots

/-!
Scanning a file system that has been added to. If no ignore file has been added, a scan that leaves
nothing out for an output directory yields what a scan before yielded that left out no file with a
matching name, and new files besides. It can fail only where the ignore files have no verdict on a
new file.
-/
namespace Exposure

open FileSystem

namespace Scan

variable {fs : FileSystem}

variable {fs' : FileSystem}

section Extension

variable {added : List (List String)} (h : Extends added fs fs')
  (hfree : ∀ place ∈ added, fs.root.at? place = none)
  (hadded : ∀ place ∈ added, place.getLast? ≠ some Ignore.fileName)
  (hwell : fs.root.WellFormed) (hwell' : fs'.root.WellFormed) (hunbroken : fs.Unbroken)
  {position : List String} (hstraight : Straight fs.root position)

section Below

variable {readers : Readers} {pattern : String} {isName : String → Bool}
  (hname : readers.pattern pattern = some isName) {filters : Filters}
  (hshown : ∀ f, f.searchRoot = Path.absolute position → Reached fs f →
    isName f.name = true → filters.outsideOutput f.parts = true) {nested : Bool}

end Below

end Extension

end Scan

namespace SourceTree

open Scan

variable {fs fs' : FileSystem} {added : List (List String)}

section Extends

variable (h : Extends added fs fs') (hfree : ∀ place ∈ added, fs.root.at? place = none)
  (hadded : ∀ place ∈ added, place.getLast? ≠ some Ignore.fileName)
  (hwell : fs.root.WellFormed) (hwell' : fs'.root.WellFormed) (hunbroken : fs.Unbroken)
  {t : SourceTree} {readers : Readers} {pattern : String} {isName : String → Bool}
  (hname : readers.pattern pattern = some isName)

end Extends

end SourceTree
end Exposure
