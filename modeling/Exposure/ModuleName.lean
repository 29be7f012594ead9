import Exposure.FileSystem.Path
import Exposure.Text.Case

/-!
Dotted module names: the name of the module in a file, the name that a relative import stands for,
and the folded form under which a file name and the class it declares are compared.
-/
namespace Exposure.ModuleName

/-- Ends with the file extension of a module. -/
def withoutExtension (name : String) : String :=
  let s := name.toList
  if ".py".toList.isSuffixOf s then String.ofList (s.take (s.length - 3)) else name

/-- The module name of a file below a search root. Backslashes count as slashes; the file of a
package itself gives the package's name. -/
def ofPath (path : String) : String :=
  let slashed := String.ofList (path.toList.map fun c => if c = '\\' then '/' else c)
  let parts := (Text.splitString '/' slashed).filter (· ≠ "")
  let stems := match parts.getLast? with
    | some l => parts.dropLast ++ [withoutExtension l]
    | none => []
  Text.joinStrings "." (if stems.getLast? = some "__init__" then stems.dropLast else stems)

/-- The module that `level` dots and a name mean inside the module `importing`. Too many dots leave
the name as it is; where nothing remains it is the importing module itself. -/
def resolveRelative (importing relative : String) (level : Nat) : String :=
  let parts := Text.splitString '.' importing
  if parts.length < level then (if relative = "" then importing else relative)
  else
    let base := parts.take (parts.length - level)
    if relative ≠ "" then Text.joinStrings "." (base ++ [relative])
    else if base.isEmpty then importing
    else Text.joinStrings "." base

/-- A file stem or class name without underscores, case folded. -/
def folded (name : String) : String :=
  String.ofList (Text.caseFold (Text.without '_' name.toList))

/-- A file name up to its last dot. -/
def stem (fileName : String) : String :=
  match Text.cutLast '.' fileName.toList with
  | some (s, _) => String.ofList s
  | none => fileName

end Exposure.ModuleName
