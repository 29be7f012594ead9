import Exposure.Config.Load
import Exposure.Config.Location
import Exposure.Proofs.Attempt
import Exposure.Proofs.FileSystem.Extension

/-!
The settings of a repository and the directories that they name, in a file system that has been
added to: the settings are read from the same file, and the directories are the same.
-/
namespace Exposure.Config

open FileSystem

variable {added : List (List String)} {fs fs' : FileSystem}
  (h : Extends added fs fs') (hwell : fs.root.WellFormed) (hunbroken : fs.Unbroken)

include h hwell hunbroken in
theorem load_extends {root : Path} (hroot : fs.isDirectory root = true)
    (hadded : ∀ place ∈ added, place.getLast? ≠ some fileName) : load fs' root = load fs root := by
  rw [isDirectory_eq, Option.isSome_iff_exists] at hroot
  obtain ⟨position, hposition⟩ := hroot
  have hnew : position ++ [fileName] ∉ added := fun hmem =>
    hadded _ hmem List.getLast?_concat
  have hbytes := h.bytes?_child hwell hunbroken hposition (by decide) hnew
  simp only [load, hbytes]

end Exposure.Config
