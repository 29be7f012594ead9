import Exposure.Glob

/-!
Named groups of files. A file belongs to the first group with a glob that matches its path.
-/
namespace Exposure

structure ModuleRule where
  name : String
  globs : List String
  deriving DecidableEq, Inhabited

/-- The name of the first group that the path belongs to. -/
def classifyModule (rules : List ModuleRule) (path : String) : Option String :=
  (rules.find? fun r => r.globs.any fun g => Glob.isMatch g path).map ModuleRule.name

end Exposure
