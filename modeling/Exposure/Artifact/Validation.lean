import Exposure.Artifact.Document

/-!
Validation of a persisted index. Every problem of the artifact is reported with the place where it
was found; an unknown section is only warned about. A bucket entry that no table can be asked for,
an array or an object, ends the validation with a fault of its own.
-/
namespace Exposure.Artifact

/-- What a validation finds. -/
inductive Finding where
  | directoryMissing
  | notDirectory
  | fileMissing
  | invalidJson
  | notObject
  | unknownSection
  | sectionNotObject
  | recordRefused (report : Schema.Report)
  | methodUnrecorded (name : String)
  | keyWithoutMethod
  | ownerUnknown (name : String)
  | rootHoldsNames
  | nodeNotObject
  | tokenNotNormal
  | bucketNotList
  | entryUnrecorded (entry : Json)

def Finding.message : Finding → String
  | directoryMissing => "Artifacts directory does not exist."
  | notDirectory => "Artifacts path is not a directory."
  | fileMissing => "Required artifact file is missing."
  | invalidJson => "Invalid JSON: " ++ detailMark
  | notObject => "Expected JSON object for the exposed symbols index."
  | unknownSection => "Unknown top-level key is ignored."
  | sectionNotObject => "Expected a JSON object."
  | recordRefused report => "Schema validation failed: " ++ report.text
  | methodUnrecorded name => "Listed method " ++ Text.quotedString name ++ " has no method record."
  | keyWithoutMethod => "Method key must have the form Class::method."
  | ownerUnknown name => "Owning class " ++ Text.quotedString name ++ " is not exposed."
  | rootHoldsNames => "The root of a purpose tree cannot hold names."
  | nodeNotObject => "Expected a JSON object."
  | tokenNotNormal => "Purpose tokens must be uppercase and dot free."
  | bucketNotList => "Purpose bucket must be a list of names."
  | entryUnrecorded entry =>
    "Registered name " ++ String.ofList entry.display ++ " has no record."

/-- A finding and the key it is about. -/
structure Remark where
  finding : Finding
  key : Option String := none

/-- What is wrong with an artifact and what is only odd. -/
structure Remarks where
  errors : List Remark := []
  warnings : List Remark := []

/-- An entry that cannot be looked up. -/
structure UnusableEntry where
  entry : Json

/-- A section's members and the problem with it. -/
def sectionMembers (key : String) (ms : List (String × Json)) :
    List (String × Json) × List Remark :=
  match Assoc.get? key ms with
  | none => ([], [])
  | some (.object content) => (content, [])
  | some _ => ([], [⟨.sectionNotObject, some key⟩])

/-- The records of a section that can be read, and the problems of the others. -/
def readableRecords {α : Type} (read : String → List (String × Json) → Except Schema.Report α)
    (sectionKey : String) : List (String × Json) → Table α × List Remark :=
  List.foldl (fun (t, found) m =>
    let key := some (sectionKey ++ "." ++ m.1)
    match m.2 with
    | .object ms =>
      match read m.1 ms with
      | .ok r => (t.insert m.1 r, found)
      | .error report => (t, found ++ [⟨.recordRefused report, key⟩])
    | _ => (t, found ++ [⟨.nodeNotObject, key⟩])) (Table.empty, [])

/-- Methods that a class lists and that have no record. -/
def unrecordedMethods (classes : Table ClassRecord) (methods : Table MethodRecord) : List Remark :=
  classes.entries.flatMap fun (name, record) =>
    (record.methodNames.filter fun m => !methods.contains (joinMethodName name m)).map fun m =>
      ⟨.methodUnrecorded m, some (classesKey ++ "." ++ name)⟩

/-- Method records whose key names no exposed class. -/
def misplacedMethods (classes : Table ClassRecord) (methods : Table MethodRecord) : List Remark :=
  methods.entries.filterMap fun (name, record) =>
    if record.name = "" then some ⟨.keyWithoutMethod, some name⟩
    else if classes.contains record.className then none
    else some ⟨.ownerUnknown record.className, some name⟩

/-- Bucket entries without a record. -/
def unrecordedEntries (known : String → Bool) (path : String) :
    List Json → Except UnusableEntry (List Remark)
  | [] => .ok []
  | .string s :: es => do
    let rest ← unrecordedEntries known path es
    .ok (if known s then rest else ⟨.entryUnrecorded (.string s), some path⟩ :: rest)
  | .array items :: _ => .error ⟨.array items⟩
  | .object ms :: _ => .error ⟨.object ms⟩
  | e :: es => do
    let rest ← unrecordedEntries known path es
    .ok (⟨.entryUnrecorded e, some path⟩ :: rest)

/-- The problems of one node apart from those of its children. -/
def nodeRemarks (known : String → Bool) (path token : String) :
    Json → Except UnusableEntry (List Remark)
  | .object ms => do
    let spelling : List Remark :=
      if token ≠ Text.upperString token ∨ token.toList.contains '.' then
        [⟨.tokenNotNormal, some path⟩]
      else []
    let bucket ← match Assoc.get? bucketKey ms with
      | none => .ok []
      | some (.array entries) => unrecordedEntries known path entries
      | some _ => .ok [⟨.bucketNotList, some path⟩]
    .ok (spelling ++ bucket)
  | _ => .ok [⟨.nodeNotObject, some path⟩]

mutual

/-- The problems of the nodes below a node, a node before its children. -/
def treeRemarks (known : String → Bool) (path : String) :
    List (String × Json) → Except UnusableEntry (List Remark)
  | [] => .ok []
  | (token, child) :: ms =>
    if token = bucketKey then treeRemarks known path ms
    else do
      let childPath := path ++ "." ++ token
      let own ← nodeRemarks known childPath token child
      let below ← childRemarks known childPath child
      let rest ← treeRemarks known path ms
      .ok (own ++ below ++ rest)

def childRemarks (known : String → Bool) (path : String) :
    Json → Except UnusableEntry (List Remark)
  | .object ms => treeRemarks known path ms
  | _ => .ok []

end

/-- The problems of a purpose tree. -/
def rootRemarks (known : String → Bool) (sectionKey : String) (ms : List (String × Json)) :
    Except UnusableEntry (List Remark) := do
  let root : List Remark :=
    if (Assoc.get? bucketKey ms).isSome then [⟨.rootHoldsNames, some sectionKey⟩] else []
  let below ← treeRemarks known sectionKey ms
  .ok (root ++ below)

/-- Validates the members of a document. -/
def memberRemarks (ms : List (String × Json)) : Except UnusableEntry Remarks := do
  let warnings := (ms.filter fun m => !sectionKeys.contains m.1).map fun m =>
    (⟨.unknownSection, some m.1⟩ : Remark)
  let (classTree, r1) := sectionMembers classPurposesKey ms
  let (methodTree, r2) := sectionMembers methodPurposesKey ms
  let (classSection, r3) := sectionMembers classesKey ms
  let (methodSection, r4) := sectionMembers methodsKey ms
  let (classes, r5) := readableRecords ClassRecord.ofMembers classesKey classSection
  let (methods, r6) := readableRecords MethodRecord.ofMembers methodsKey methodSection
  let r7 := unrecordedMethods classes methods
  let r8 := misplacedMethods classes methods
  let r9 ← rootRemarks classes.contains classPurposesKey classTree
  let r10 ← rootRemarks methods.contains methodPurposesKey methodTree
  .ok ⟨r1 ++ r2 ++ r3 ++ r4 ++ r5 ++ r6 ++ r7 ++ r8 ++ r9 ++ r10, warnings⟩

/-- Validates a document; none stands for bytes that are no JSON text. -/
def documentRemarks : Option Json → Except UnusableEntry Remarks
  | none => .ok ⟨[⟨.invalidJson, none⟩], []⟩
  | some (.object ms) => memberRemarks ms
  | some _ => .ok ⟨[⟨.notObject, none⟩], []⟩

/-- A remark as it is reported. -/
structure ValidationMessage where
  artifact : String
  path : Path
  finding : Finding
  key : Option String

/-- Where a remark is about: the path, and the key if there is one. -/
def ValidationMessage.location (m : ValidationMessage) : String :=
  match m.key with
  | none => m.path.toString
  | some k => m.path.toString ++ "#" ++ k

structure ValidationResult where
  errors : List ValidationMessage := []
  warnings : List ValidationMessage := []

def ValidationResult.ok (r : ValidationResult) : Bool := r.errors.isEmpty

/-- Validates the artifact in a directory. -/
def validate (fs : FileSystem) (directory : Path) : Except UnusableEntry ValidationResult :=
  let refuse (finding : Finding) : ValidationResult :=
    ⟨[⟨"artifacts_dir", directory, finding, none⟩], []⟩
  if !fs.pathExists directory then .ok (refuse .directoryMissing)
  else if !fs.isDirectory directory then .ok (refuse .notDirectory)
  else
    let file := directory.child fileName
    let report (r : Remark) : ValidationMessage := ⟨"exposed_symbols", file, r.finding, r.key⟩
    if !fs.pathExists file then .ok ⟨[report ⟨.fileMissing, none⟩], []⟩
    else do
      let rs ← documentRemarks ((fs.bytes? file).bind (Json.ofBytes? .word))
      .ok ⟨rs.errors.map report, rs.warnings.map report⟩

end Exposure.Artifact
