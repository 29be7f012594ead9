import Exposure.Artifact.Validation
import Exposure.Proofs.Attempt
import Exposure.Proofs.FileSystem.Walk
import Exposure.Proofs.Json.Reading
import Exposure.Proofs.Purpose.Nodes
import Mathlib.Data.List.Permutation

/-!
When a validation gives a result. Nothing in a file system and no document can stop it but an array
or an object in the bucket of a purpose: it ends at the first of them, and whatever else is wrong
becomes a remark.
-/
namespace Exposure

/-- The value is an array or an object, for which no table can be asked. -/
def Json.isComposite : Json → Bool
  | .array _ => true
  | .object _ => true
  | _ => false

namespace Artifact

open PurposeTree

/-- The attempt fails just if one of the entries is composite, and then with the first of them. -/
def StopsAt {α : Type} (x : Except UnusableEntry α) (entries : List Json) : Prop :=
  ∀ u, x = .error u ↔ entries.find? Json.isComposite = some u.entry

section

variable {α β : Type} {x : Except UnusableEntry α} {es fs : List Json}

theorem stopsAt_ok (a : α) : StopsAt (.ok a) [] := by
  simp [StopsAt]

theorem stopsAt_error {e : Json} (he : e.isComposite = true) (es : List Json) :
    StopsAt (.error ⟨e⟩ : Except UnusableEntry α) (e :: es) := by
  rintro ⟨e'⟩
  simp [he]

theorem StopsAt.cons (h : StopsAt x es) {e : Json} (he : e.isComposite = false) :
    StopsAt x (e :: es) := by
  intro u
  rw [h u, List.find?_cons, he]

theorem StopsAt.bind (h : StopsAt x es) {f : α → Except UnusableEntry β}
    (hf : ∀ a, x = .ok a → StopsAt (f a) fs) : StopsAt (x >>= f) (es ++ fs) := by
  intro u
  rw [List.find?_append]
  cases hx : x with
  | error v =>
      have hfail : (Except.error v >>= f) = .error v := rfl
      rw [(h v).1 hx, Option.some_or, hfail]
      cases u
      cases v
      simp
  | ok a =>
      have hnone : es.find? Json.isComposite = none := by
        rw [Option.eq_none_iff_forall_ne_some]
        intro e he
        cases hx.symm.trans ((h ⟨e⟩).2 he)
      rw [hnone, Option.none_or]
      exact hf a hx u

theorem StopsAt.andThen (h : StopsAt x es) (f : α → β) : StopsAt (x >>= fun a => .ok (f a)) es := by
  have hbind := h.bind fun a _ => stopsAt_ok (f a)
  rwa [List.append_nil] at hbind

/-- An attempt that stops at no entry succeeds. -/
theorem StopsAt.isOk_iff (h : StopsAt x es) :
    (∃ a, x = .ok a) ↔ ∀ e ∈ es, e.isComposite = false := by
  have hnone : (∃ a, x = .ok a) ↔ es.find? Json.isComposite = none := by
    cases hx : x with
    | error u => simp [(h u).1 hx]
    | ok a =>
        simp only [Except.ok.injEq, exists_eq', true_iff]
        rw [Option.eq_none_iff_forall_ne_some]
        intro e he
        cases hx.symm.trans ((h ⟨e⟩).2 he)
  rw [hnone, List.find?_eq_none]
  simp

end

variable {known : String → Bool}

theorem stopsAt_unrecordedEntries (path : String) (es : List Json) :
    StopsAt (unrecordedEntries known path es) es := by
  induction es with
  | nil => exact stopsAt_ok []
  | cons e es ih =>
      cases e with
      | array items => exact stopsAt_error rfl es
      | object ms => exact stopsAt_error rfl es
      | null | bool _ | int _ | float _ | string _ =>
          simp only [unrecordedEntries]
          exact (ih.andThen _).cons rfl

theorem stopsAt_nodeRemarks (path token : String) (ms : List (String × Json)) :
    StopsAt (nodeRemarks known path token (.object ms)) (bucketOf ms) := by
  rw [nodeRemarks, bucketOf]
  cases Assoc.get? bucketKey ms with
  | none => exact stopsAt_ok _
  | some bucket =>
      cases bucket with
      | array entries => exact (stopsAt_unrecordedEntries path entries).andThen _
      | null | bool _ | int _ | float _ | string _ | object _ => exact stopsAt_ok _

theorem treeRemarks_leaf {path key : String} (hk : key ≠ bucketKey) {value : Json}
    (hv : value.members? = none) (rest : List (String × Json)) :
    treeRemarks known path ((key, value) :: rest) =
      treeRemarks known path rest >>= fun remarks =>
        .ok (⟨.nodeNotObject, some (path ++ "." ++ key)⟩ :: remarks) := by
  rw [treeRemarks, if_neg hk]
  cases value with
  | object ms => cases hv
  | null | bool _ | int _ | float _ | string _ | array _ => rfl

/-- The walk over a tree asks for the entries of its nodes in their order. -/
theorem stopsAt_treeRemarks (path : String) (ms : List (String × Json)) :
    StopsAt (treeRemarks known path ms) ((nodesBelow ms).flatMap Prod.snd) := by
  induction ms using Json.members_induction generalizing path with
  | nil =>
      rw [treeRemarks, nodesBelow_nil]
      exact stopsAt_ok []
  | object key inner rest ihi ihr =>
      by_cases hk : key = bucketKey
      · subst hk
        rw [treeRemarks, if_pos rfl, nodesBelow_bucket]
        exact ihr path
      · have hunder : ((nodesBelow inner).map (Place.under key)).flatMap Prod.snd =
            (nodesBelow inner).flatMap Prod.snd := by rw [List.flatMap_map]; rfl
        rw [treeRemarks, if_neg hk, nodesBelow_node hk, List.flatMap_append, List.flatMap_cons,
          hunder, List.append_assoc]
        refine (stopsAt_nodeRemarks _ key inner).bind fun own _ => ?_
        rw [childRemarks]
        exact (ihi _).bind fun below _ => (ihr path).andThen _
  | other key value rest hv ihr =>
      have hnodes : nodesBelow ((key, value) :: rest) = nodesBelow rest := by
        cases value with
        | object ms => cases hv
        | null | bool _ | int _ | float _ | string _ | array _ => simp [nodesBelow]
      rw [hnodes]
      by_cases hk : key = bucketKey
      · rw [treeRemarks, if_pos hk]
        exact ihr path
      · rw [treeRemarks_leaf hk hv]
        exact (ihr path).andThen _

/-- The members of a section, none if it is missing or no object. -/
def sectionOf (key : String) (v : Json) : List (String × Json) :=
  ((v.get? key).bind Json.members?).getD []

/-- The bucket entries of the nodes of both trees, in the order of the walk. -/
def bucketEntries (v : Json) : List Json :=
  (nodesBelow (sectionOf classPurposesKey v) ++ nodesBelow (sectionOf methodPurposesKey v)).flatMap
    Prod.snd

theorem sectionMembers_fst (key : String) (ms : List (String × Json)) :
    (sectionMembers key ms).1 = sectionOf key (.object ms) := by
  rw [sectionMembers, sectionOf, Json.get?]
  cases Assoc.get? key ms with
  | none => rfl
  | some v => cases v <;> rfl

theorem stopsAt_memberRemarks (ms : List (String × Json)) :
    StopsAt (memberRemarks ms) (bucketEntries (.object ms)) := by
  rw [bucketEntries, ← sectionMembers_fst, ← sectionMembers_fst, List.flatMap_append]
  refine ((stopsAt_treeRemarks _ _).andThen _).bind fun r9 _ => ?_
  exact ((stopsAt_treeRemarks _ _).andThen _).andThen _

theorem bucketEntries_eq_nil {v : Json} (h : v.members? = none) : bucketEntries v = [] := by
  have hsection (key : String) : sectionOf key v = [] := by
    cases v with
    | object ms => cases h
    | null | bool _ | int _ | float _ | string _ | array _ => rfl
  rw [bucketEntries, hsection, hsection, nodesBelow_nil]
  rfl

/-- The bucket entries of a document, none if there is no document. -/
def entriesOf (document : Option Json) : List Json := document.elim [] bucketEntries

theorem stopsAt_documentRemarks (document : Option Json) :
    StopsAt (documentRemarks document) (entriesOf document) := by
  cases document with
  | none => exact stopsAt_ok _
  | some v =>
      rw [entriesOf, Option.elim_some]
      cases v with
      | object ms => exact stopsAt_memberRemarks ms
      | null | bool _ | int _ | float _ | string _ | array _ =>
          rw [bucketEntries_eq_nil rfl]
          exact stopsAt_ok _

/-- The remarks about the artifact in a directory as they are reported. -/
def reported (directory : Path) (rs : Remarks) : ValidationResult :=
  let report (r : Remark) : ValidationMessage :=
    ⟨"exposed_symbols", directory.child fileName, r.finding, r.key⟩
  ⟨rs.errors.map report, rs.warnings.map report⟩

/-- The document in a directory, if its file has the bytes of one. -/
def documentIn (fs : FileSystem) (directory : Path) : Option Json :=
  (fs.bytes? (directory.child fileName)).bind (Json.ofBytes? .word)

theorem bytes?_eq_none_of_not_pathExists {fs : FileSystem} {p : Path}
    (h : fs.pathExists p = false) : fs.bytes? p = none := by
  rw [FileSystem.pathExists, Option.isSome_eq_false_iff, Option.isNone_iff_eq_none] at h
  rw [FileSystem.bytes?, h]

/-- What is validated where there is an artifact file, whatever it holds. -/
theorem validate_of_pathExists {fs : FileSystem} {directory : Path}
    (hdirectory : fs.isDirectory directory = true)
    (hfile : fs.pathExists (directory.child fileName) = true) :
    validate fs directory =
      documentRemarks (documentIn fs directory) >>= fun rs => .ok (reported directory rs) := by
  simp only [validate, FileSystem.pathExists_of_isDirectory hdirectory, hdirectory, hfile]
  rfl

theorem stopsAt_validate (fs : FileSystem) (directory : Path) :
    StopsAt (validate fs directory)
      (if fs.isDirectory directory then entriesOf (documentIn fs directory) else []) := by
  cases hdirectory : fs.isDirectory directory with
  | false =>
      rw [validate]
      split
      · exact stopsAt_ok _
      · rw [hdirectory]
        exact stopsAt_ok _
  | true =>
      rw [if_pos rfl]
      cases hfile : fs.pathExists (directory.child fileName) with
      | false =>
          rw [documentIn, bytes?_eq_none_of_not_pathExists hfile]
          simp only [validate, FileSystem.pathExists_of_isDirectory hdirectory, hdirectory, hfile]
          exact stopsAt_ok _
      | true =>
          rw [validate_of_pathExists hdirectory hfile]
          exact (stopsAt_documentRemarks _).andThen _

/-- A directory is found without errors just if it holds a document without any. -/
theorem validate_eq_ok_iff {fs : FileSystem} {directory : Path} :
    (∃ result, validate fs directory = .ok result ∧ result.ok = true) ↔
      fs.isDirectory directory = true ∧
        ∃ rs, documentRemarks (documentIn fs directory) = .ok rs ∧ rs.errors = [] := by
  cases hdirectory : fs.isDirectory directory with
  | false =>
      simp only [validate, hdirectory]
      cases fs.pathExists directory <;> simp [ValidationResult.ok]
  | true =>
      cases hfile : fs.pathExists (directory.child fileName) with
      | false =>
          rw [documentIn, bytes?_eq_none_of_not_pathExists hfile]
          simp only [validate, FileSystem.pathExists_of_isDirectory hdirectory, hdirectory, hfile]
          simp [ValidationResult.ok, documentRemarks]
      | true =>
          rw [validate_of_pathExists hdirectory hfile]
          simp only [bind_eq_ok, true_and, Except.ok.injEq]
          constructor
          · rintro ⟨_, ⟨rs, hrs, rfl⟩, hok⟩
            exact ⟨rs, hrs, by simpa [ValidationResult.ok, reported] using hok⟩
          · rintro ⟨rs, hrs, herrors⟩
            exact ⟨_, ⟨rs, hrs, rfl⟩, by simp [ValidationResult.ok, reported, herrors]⟩

/-- In whatever file system, a validation fails just if the directory holds a document with an array
or an object among the entries of its buckets, and then with the first of these; in every other case
it gives a result. -/
theorem validate_outcome (fs : FileSystem) (directory : Path) :
    (∀ u, validate fs directory = .error u ↔
      fs.isDirectory directory = true ∧ ∃ v, documentIn fs directory = some v ∧
        (bucketEntries v).find? Json.isComposite = some u.entry) ∧
    ((∃ result, validate fs directory = .ok result) ↔
      (fs.isDirectory directory = true → ∀ v, documentIn fs directory = some v →
        ∀ e ∈ bucketEntries v, e.isComposite = false)) := by
  have hstops := stopsAt_validate fs directory
  refine ⟨fun u => (hstops u).trans ?_, hstops.isOk_iff.trans ?_⟩
  · cases fs.isDirectory directory with
    | false => simp
    | true => cases documentIn fs directory <;> simp [entriesOf]
  · cases fs.isDirectory directory with
    | false => simp
    | true => cases documentIn fs directory <;> simp [entriesOf]

/-- A file system with a text for its artifact, in the root directory. -/
def holding (text : String) : FileSystem := ⟨.directory [(fileName, .file text.toUTF8)], []⟩

theorem isDirectory_holding (text : String) :
    (holding text).isDirectory (Path.ofString "/") = true := by
  have hroot : FileSystem.entry? (holding text) ⟨"/", []⟩ = some (holding text).root := by
    simp [FileSystem.walk, FileSystem.entry?, Path.hasNul, FileSystem.walkFrom, FileSystem.start,
      Path.isAbsolute, Entry.at?]
  rw [show Path.ofString "/" = ⟨"/", []⟩ by decide, FileSystem.isDirectory, hroot]
  rfl

theorem entry?_holding (text : String) :
    FileSystem.entry? (holding text) ((Path.ofString "/").child fileName) =
      some (.file text.toUTF8) := by
  rw [show Path.ofString "/" = ⟨"/", []⟩ by decide]
  simp [Path.child, FileSystem.entry?, FileSystem.walk, Path.hasNul, FileSystem.walkFrom,
    FileSystem.start, Path.isAbsolute, Entry.at?, holding, Assoc.get?, Entry.children, fileName]

theorem documentIn_holding (text : String) :
    documentIn (holding text) (Path.ofString "/") = Json.ofText? .word text := by
  rw [documentIn, FileSystem.bytes?, entry?_holding, Option.bind_some, Json.ofBytes?_toUTF8]

theorem validate_holding (text : String) :
    validate (holding text) (Path.ofString "/") =
      documentRemarks (Json.ofText? .word text) >>= fun rs =>
        .ok (reported (Path.ofString "/") rs) := by
  rw [validate_of_pathExists (isDirectory_holding text), documentIn_holding]
  rw [FileSystem.pathExists, entry?_holding]
  rfl

/-- A document with an array in the bucket of a purpose. -/
def arrayEntryText : String :=
  "\x7b\"purposes\":\x7b\"LOG\":\x7b\"#\":[\"Log\",[]]\x7d\x7d\x7d"

/-- The array ends the validation, though the entry before it can be asked for. -/
theorem validate_arrayEntry :
    validate (holding arrayEntryText) (Path.ofString "/") = .error ⟨.array []⟩ := by
  have hread : Json.ofText? .word arrayEntryText =
      some (.object [("purposes",
        .object [("LOG", .object [(bucketKey, .array [.string "Log", .array []])])])]) := by
    cbv
  rw [validate_holding, hread]
  rfl

end Artifact
end Exposure
