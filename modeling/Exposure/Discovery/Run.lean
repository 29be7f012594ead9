import Exposure.Discovery.Merge
import Exposure.Module.Load
import Exposure.Scan.Tree
import Exposure.Source.Outline

/-!
A discovery: every file of a source tree is read, the class that it declares is found in its module,
which is loaded if need be, and reflected; the reports are merged into one result. All files share
one table of modules, which begins anew with each discovery.
-/
namespace Exposure

/-- What a discovery asks of the program that it runs in, which has states of some type. -/
structure Host (σ : Type) where
  /-- The classes at the top of a source text, as the parser lists them. -/
  classNames : String → List String
  /-- The class that a name stands for in a module of the table. -/
  class? : σ → String → String → Option Class
  /-- Imports the module of a name, with a search root first on the path. -/
  load : Path → String → σ → Except Raised Unit × σ
  /-- Calls a function. -/
  run : σ → Run
  registered : σ → Class.Registry
  /-- What is left of a state when a class has been asked for its purposes. -/
  asked : Class → σ → σ

/-- The host that runs source texts itself and lists their classes by the outline. What is done
while a class is asked does not stay. -/
def World.host (fs : FileSystem) : Host World where
  classNames := Source.Outline.classNames
  class? := World.class?
  load root name w := ((discard (loadModule fs root name)).run.run w)
  run w := w.run fs
  registered := World.registered
  asked _ w := w

namespace SourceFile

/-- The text of a file, with one kind of line break. -/
def text (fs : FileSystem) (f : SourceFile) : Except FileFault String :=
  match String.fromUTF8? ((fs.bytes? f.path).getD ByteArray.empty) with
  | some s => .ok (String.ofList (Text.unifyLineBreaks s.toList))
  | none => .error .notText

/-- The name of the module in a file. -/
def moduleName (f : SourceFile) : String := ModuleName.ofPath f.relativePath

/-- The class of a name in the module of a file. The module is loaded only if it is not there yet
or does not have the class. -/
def resolveBy {σ : Type} (h : Host σ) (f : SourceFile) (className : String) (w : σ) :
    Except FileFault Class × σ :=
  match h.class? w f.moduleName className with
  | some c => (.ok c, w)
  | none =>
    match h.load f.searchRoot f.moduleName w with
    | (.error r, w) => (.error (.raised r), w)
    | (.ok _, w) =>
      match h.class? w f.moduleName className with
      | some c => (.ok c, w)
      | none => (.error (.unresolved (f.moduleName ++ "." ++ className) f.path), w)

/-- The name that a file gives its class. -/
def classNameIn (f : SourceFile) (className : String) : String :=
  if f.moduleName = "" then className else f.moduleName ++ "." ++ className

end SourceFile

namespace FileReport

/-- What reflecting a class comes to. -/
def reflect (run : Run) (registered : Class.Registry) (c : Class) (name source : String)
    (moduleName : Option String) : Except FileFault FileOutcome :=
  match Reflection.ofClass run registered c source moduleName with
  | .error e => .error (.reflection e)
  | .ok none => .ok (.notExposed name)
  | .ok (some r) => .ok (.exposed r)

section Host

variable {σ : Type} (h : Host σ) (fs : FileSystem) (tree : SourceTree)

/-- The report of a file. -/
def ofFileBy (f : SourceFile) (w : σ) : FileReport × σ :=
  match f.text fs with
  | .error fault => ({ file := f, outcome := .error fault }, w)
  | .ok source =>
    match Source.Outline.declaredClassNameBy (h.classNames source) f.name source with
    | none => ({ file := f, outcome := .ok .noClass }, w)
    | some className =>
      match f.resolveBy h className w with
      | (.error fault, w) => ({ file := f, outcome := .error fault }, w)
      | (.ok c, w) =>
        let name := f.classNameIn className
        ({ file := f, found := some (name, c)
           outcome := reflect (h.run w) (h.registered w) c name source (tree.moduleOf f) },
          h.asked c w)

/-- The reports of files in order, and the state at the end. -/
def ofFilesBy : List SourceFile → σ → List FileReport × σ
  | [], w => ([], w)
  | f :: files, w =>
    let (r, w) := ofFileBy h fs tree f w
    let (rs, w) := ofFilesBy files w
    (r :: rs, w)

end Host

/-- The reports of files in order. -/
def ofFiles (fs : FileSystem) (tree : SourceTree) (files : List SourceFile) (w : World) :
    List FileReport :=
  (ofFilesBy (World.host fs) fs tree files w).1

end FileReport

namespace Discovery

/-- Discovers the exposed classes of a source tree. -/
def run (fs : FileSystem) (tree : SourceTree) (pattern : String) :
    Except Scan.Fault (Discovery × List LogLine) := do
  let files ← tree.files fs pattern
  let (d, lines) := mergeAll {} (FileReport.ofFiles fs tree files Known.world)
  return (d, lines ++ [d.summary])

end Discovery
end Exposure
