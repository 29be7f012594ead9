import Exposure.Proofs.Artifact.Loading
import Exposure.Proofs.Record.MethodName

/-!
Well-formed documents, by what stands in them and without a word about how they are checked. The
validator finds no error in a document just if it is well-formed, as long as no bucket holds an
array or an object, for which it gives no answer.
-/
namespace Exposure
namespace Artifact

open PurposeTree

/-- The document is an object, and so is each section that it has; there is a record of its kind
under each key of the last two. -/
structure Readable (v : Json) : Prop where
  object : ∃ ms, v = .object ms
  sections : ∀ key ∈ sectionKeys, ∀ w, v.get? key = some w → ∃ ms, w = .object ms
  classes : ∀ name ∈ Assoc.keys (sectionOf classesKey v), (classIn? v name).isSome = true
  methods : ∀ name ∈ Assoc.keys (sectionOf methodsKey v), (methodIn? v name).isSome = true

/-- Classes and methods refer to each other, and the trees to what is recorded. -/
structure Linked (v : Json) : Prop where
  listed : ∀ name r, classIn? v name = some r → ∀ n ∈ r.methodNames,
    (methodIn? v (joinMethodName name n)).isSome = true
  owned : ∀ key, (methodIn? v key).isSome = true → ∃ className n,
    key = joinMethodName className n ∧ Separable className ∧ n ≠ "" ∧
      (classIn? v className).isSome = true
  classRoot : Assoc.get? bucketKey (sectionOf classPurposesKey v) = none
  methodRoot : Assoc.get? bucketKey (sectionOf methodPurposesKey v) = none
  classTree : Shaped IsToken (IsKnown fun name => (classIn? v name).isSome)
    (sectionOf classPurposesKey v)
  methodTree : Shaped IsToken (IsKnown fun name => (methodIn? v name).isSome)
    (sectionOf methodPurposesKey v)

/-- A document that an artifact may hold. -/
structure WellFormed (v : Json) : Prop extends Readable v, Linked v

theorem sectionMembers_snd_eq_nil_iff {key : String} {ms : List (String × Json)} :
    (sectionMembers key ms).2 = [] ↔ ∀ w, Assoc.get? key ms = some w → ∃ xs, w = .object xs := by
  rw [sectionMembers]
  cases Assoc.get? key ms with
  | none => simp
  | some w => cases w <;> simp

section

variable {ms : List (String × Json)} {i : Index}

theorem exists_readableRecords_sectionOf {α : Type}
    {read : String → List (String × Json) → Except Schema.Report α}
    (hd : Json.DistinctMembers ms) (key : String) :
    (∃ t, readableRecords read key (sectionOf key (.object ms)) = (t, [])) ↔
      ∀ name ∈ Assoc.keys (sectionOf key (.object ms)),
        (recordIn? read (sectionOf key (.object ms)) name).isSome = true :=
  exists_readableRecords_iff.trans
    (forall_recordIn?_iff (distinct_sectionOf hd key).nodup_keys).symm

/-- The sections can be read just if they hold some index. -/
theorem readable_iff (hd : Json.DistinctMembers ms) :
    Readable (.object ms) ↔ ∃ i, Holds ms i := by
  constructor
  · intro h
    obtain ⟨classes, hclasses⟩ := (exists_readableRecords_sectionOf hd classesKey).2 h.classes
    obtain ⟨methods, hmethods⟩ := (exists_readableRecords_sectionOf hd methodsKey).2 h.methods
    have hsection {key : String} (hkey : key ∈ sectionKeys) : (sectionMembers key ms).2 = [] :=
      sectionMembers_snd_eq_nil_iff.2 (h.sections key hkey)
    -- The trees are taken as they stand; whether they have the shape is for the links to say.
    refine ⟨⟨⟨sectionOf classPurposesKey (.object ms)⟩, ⟨sectionOf methodPurposesKey (.object ms)⟩,
      classes, methods⟩, ?_⟩
    exact {
      classTree := Prod.ext (sectionMembers_fst _ _) (hsection (by decide))
      methodTree := Prod.ext (sectionMembers_fst _ _) (hsection (by decide))
      classSection := hsection (by decide)
      methodSection := hsection (by decide)
      classes := by rw [sectionMembers_fst, hclasses]
      methods := by rw [sectionMembers_fst, hmethods] }
  · rintro ⟨i, h⟩
    refine ⟨⟨ms, rfl⟩, fun key hkey => sectionMembers_snd_eq_nil_iff.1 ?_,
      (exists_readableRecords_sectionOf hd classesKey).1 ⟨_, h.readableClasses⟩,
      (exists_readableRecords_sectionOf hd methodsKey).1 ⟨_, h.readableMethods⟩⟩
    simp only [sectionKeys, List.mem_cons, List.not_mem_nil, or_false] at hkey
    rcases hkey with rfl | rfl | rfl | rfl
    · rw [h.classTree]
    · rw [h.methodTree]
    · exact h.classSection
    · exact h.methodSection

/-- A method record has an owner and a name of its own just if its key is joined from these. -/
theorem owner_iff {known : String → Bool} {key : String} :
    ((splitMethodName key).2 ≠ "" ∧ known (splitMethodName key).1 = true) ↔
      ∃ className n, key = joinMethodName className n ∧ Separable className ∧ n ≠ "" ∧
        known className = true := by
  constructor
  · rintro ⟨hname, hknown⟩
    obtain ⟨hkey, hseparable⟩ := (splitMethodName_eq_iff hname).1 rfl
    exact ⟨_, _, hkey, hseparable, hname, hknown⟩
  · rintro ⟨className, n, rfl, hseparable, hname, hknown⟩
    rw [splitMethodName_joinMethodName_iff.2 hseparable]
    exact ⟨hname, hknown⟩

theorem owned_iff (hd : Json.DistinctMembers ms) (h : Holds ms i) :
    (∀ key, (methodIn? (.object ms) key).isSome = true → ∃ className n,
      key = joinMethodName className n ∧ Separable className ∧ n ≠ "" ∧
        (classIn? (.object ms) className).isSome = true) ↔
      ∀ key r, i.methods.get? key = some r →
        r.name ≠ "" ∧ i.classes.contains r.className = true := by
  refine forall_congr' fun key => ?_
  rw [Option.isSome_iff_exists, exists_imp, h.get?_methods hd]
  refine forall₂_congr fun r hr => ?_
  have hkey : r.qualifiedName = key :=
    (filed_of_holds h hd).methods key r ((h.get?_methods hd key).trans hr)
  rw [MethodRecord.name, MethodRecord.className, hkey, owner_iff, h.contains_classes hd]

/-- What the sections hold is linked just if the index is consistent. -/
theorem linked_iff (hd : Json.DistinctMembers ms) (h : Holds ms i) :
    Linked (.object ms) ↔ i.Consistent := by
  have hclass := h.contains_classes hd
  have hmethod := h.contains_methods hd
  constructor
  · intro hl
    refine ⟨fun name r hr => ?_, (owned_iff hd h).1 hl.owned, ?_, ?_, ?_, ?_⟩
    · rw [hmethod]
      exact hl.listed name r (h.get?_classes hd name ▸ hr)
    · rw [h.classPurposes]
      exact hl.classRoot
    · rw [h.methodPurposes]
      exact hl.methodRoot
    · rw [h.classPurposes, hclass]
      exact hl.classTree
    · rw [h.methodPurposes, hmethod]
      exact hl.methodTree
  · intro hi
    refine ⟨fun name r hr => ?_, (owned_iff hd h).2 hi.owned, ?_, ?_, ?_, ?_⟩
    · have hlisted := hi.listed name r ((h.get?_classes hd name).trans hr)
      rwa [hmethod] at hlisted
    · exact h.classPurposes ▸ hi.classRoot
    · exact h.methodPurposes ▸ hi.methodRoot
    · exact hclass ▸ h.classPurposes ▸ hi.classTree
    · exact hmethod ▸ h.methodPurposes ▸ hi.methodTree

end

theorem wellFormed_iff {v : Json} (hd : v.Distinct) :
    WellFormed v ↔ ∃ ms i, v = .object ms ∧ Holds ms i ∧ i.Consistent := by
  constructor
  · rintro ⟨hreadable, hlinked⟩
    obtain ⟨ms, rfl⟩ := hreadable.object
    obtain ⟨i, h⟩ := (readable_iff (hd ms rfl)).1 hreadable
    exact ⟨ms, i, rfl, h, (linked_iff (hd ms rfl) h).1 hlinked⟩
  · rintro ⟨ms, i, rfl, h, hi⟩
    exact ⟨(readable_iff (hd ms rfl)).2 ⟨i, h⟩, (linked_iff (hd ms rfl) h).2 hi⟩

/-- The validator accepts exactly the well-formed documents: where no bucket holds an array or an
object it gives a result, which is without errors just if the document is well-formed. -/
theorem validate_ok_iff_wellFormed {fs : FileSystem} {directory : Path} {v : Json}
    (hdirectory : fs.isDirectory directory = true) (hv : documentIn fs directory = some v)
    (hentries : ∀ e ∈ bucketEntries v, e.isComposite = false) :
    ∃ result, validate fs directory = .ok result ∧ (result.ok = true ↔ WellFormed v) := by
  have hresult : ∃ result, validate fs directory = .ok result := by
    rw [(stopsAt_validate fs directory).isOk_iff, if_pos hdirectory, hv]
    exact hentries
  obtain ⟨result, hresult⟩ := hresult
  refine ⟨result, hresult, ?_⟩
  have haccepts : (∃ result, validate fs directory = .ok result ∧ result.ok = true) ↔
      WellFormed v := by
    rw [validate_eq_ok_iff, documentRemarks_ok_iff, hv, wellFormed_iff (distinct_documentIn hv)]
    simp [hdirectory]
  rw [← haccepts, hresult]
  simp

/-- A method of a class, registered two levels deep. -/
def nestedText : String :=
  "\x7b\"method_purposes\":\x7b\"LOG\":\x7b\"ADD\":\x7b\"#\":[\"Log::add\"]\x7d\x7d\x7d," ++
  "\"classes\":\x7b\"Log\":\x7b\"methodNames\":[\"add\"]\x7d\x7d," ++
  "\"methods\":\x7b\"Log::add\":\x7b\x7d\x7d\x7d"

def nestedDocument : Json := .object [
  ("method_purposes",
    .object [("LOG", .object [("ADD", .object [(bucketKey, .array [.string "Log::add"])])])]),
  ("classes", .object [("Log", .object [("methodNames", .strings ["add"])])]),
  ("methods", .object [("Log::add", .object [])])]

theorem validate_ok_iff_wellFormed_nested :
    documentIn (holding nestedText) (Path.ofString "/") = some nestedDocument ∧
    (∀ e ∈ bucketEntries nestedDocument, e.isComposite = false) ∧
    ∃ result, validate (holding nestedText) (Path.ofString "/") = .ok result ∧
      (result.ok = true ↔ WellFormed nestedDocument) := by
  have hdocument : documentIn (holding nestedText) (Path.ofString "/") = some nestedDocument := by
    rw [documentIn_holding, nestedDocument]
    cbv
  have hentries : bucketEntries nestedDocument = [.string "Log::add"] := by
    rw [bucketEntries, nestedDocument]
    simp [sectionOf, Json.get?, Json.members?, Assoc.get?, classPurposesKey, methodPurposesKey,
      nodesBelow, Place.under, bucketKey, bucketOf]
  have hnested : ∀ e ∈ bucketEntries nestedDocument, e.isComposite = false := by
    rw [hentries]
    exact fun e he => by rw [List.mem_singleton.1 he]; rfl
  exact ⟨hdocument, hnested,
    validate_ok_iff_wellFormed (isDirectory_holding nestedText) hdocument hnested⟩

end Artifact
end Exposure
