import Exposure.Discovery.Merge
import Exposure.Proofs.Class.MethodRecord

/-!
Private names. A class stores a private name behind its mark, and the name that the definition wrote
is found again by the mark. So the methods of a class are recorded under different names, unless the
name of the class is made of underscores: such a class stores every name as it is, but names that
look marked are cut all the same.
-/
namespace Exposure

section Mark

variable {className name stored : String} {p r : List Char}

/-- A name that the definition of a class can put into it: one without a dot, as it was written or
with the mark of the class. -/
def IsStored (className stored : String) : Prop :=
  ∃ name, '.' ∉ name.toList ∧ storedName className name = stored

/-- Two underscores at the end do not come from what stands before two others. -/
theorem underscores_suffix_iff :
    ['_', '_'] <:+ p ++ '_' :: '_' :: r ↔ ['_', '_'] <:+ '_' :: '_' :: r := by
  constructor
  · intro h
    apply List.suffix_of_suffix_length_le h (List.suffix_append _ _)
    simp
  · intro h
    exact h.trans (List.suffix_append _ _)

theorem privateMark_append (className : String) (r : List Char) :
    privateMark className ++ r =
      ('_' :: className.toList.dropWhile (· = '_')) ++ '_' :: '_' :: r := by
  simp [privateMark]

theorem storedName_of_private (hletter : ∃ c ∈ className.toList, c ≠ '_')
    (hname : name.toList = '_' :: '_' :: r) (hend : ¬['_', '_'] <:+ name.toList)
    (hdot : '.' ∉ name.toList) :
    storedName className name = String.ofList (privateMark className ++ r) := by
  have hany : className.toList.any (· ≠ '_') = true := by simpa using hletter
  have hsuffix : ['_', '_'].isSuffixOf name.toList = false := by
    rwa [Bool.eq_false_iff, Ne, List.isSuffixOf_iff_suffix]
  have hcontains : name.toList.contains '.' = false := by simpa using hdot
  rw [storedName, hany, hsuffix, hcontains, hname]
  simp

/-- A class whose name is made of underscores stores each name as it is. -/
theorem storedName_of_underscores (hunderscores : ∀ c ∈ className.toList, c = '_') (name : String) :
    storedName className name = name := by
  have hany : className.toList.any (· ≠ '_') = false := by simpa using hunderscores
  rw [storedName, hany, Bool.and_false]
  simp

theorem writtenName_of_mark (hstored : stored.toList = privateMark className ++ r)
    (hend : ¬['_', '_'] <:+ stored.toList) :
    (writtenName className stored).1 = String.ofList ('_' :: '_' :: r) := by
  have hmark : (privateMark className).isPrefixOf stored.toList = true :=
    List.isPrefixOf_iff_prefix.2 (hstored ▸ List.prefix_append _ _)
  have hsuffix : ['_', '_'].isSuffixOf stored.toList = false := by
    rwa [Bool.eq_false_iff, Ne, List.isSuffixOf_iff_suffix]
  rw [writtenName]
  simp only [hmark, hsuffix, Bool.not_false, Bool.and_self, if_true]
  rw [hstored, List.drop_left]

/-- A stored name either has the mark, which is replaced, or is the written name already. -/
theorem writtenName_cases (className stored : String) :
    (∃ r, stored.toList = privateMark className ++ r ∧ ¬['_', '_'] <:+ stored.toList ∧
      (writtenName className stored).1 = String.ofList ('_' :: '_' :: r)) ∨
    (¬(privateMark className <+: stored.toList ∧ ¬['_', '_'] <:+ stored.toList) ∧
      (writtenName className stored).1 = stored) := by
  by_cases hmark : privateMark className <+: stored.toList ∧ ¬['_', '_'] <:+ stored.toList
  · obtain ⟨⟨r, hr⟩, hend⟩ := hmark
    exact .inl ⟨r, hr.symm, hend, writtenName_of_mark hr.symm hend⟩
  · refine .inr ⟨hmark, ?_⟩
    rw [← List.isPrefixOf_iff_prefix, ← List.isSuffixOf_iff_suffix] at hmark
    rw [writtenName]
    simp only [Bool.and_eq_true, Bool.not_eq_true', Bool.not_eq_true] at hmark ⊢
    rw [if_neg hmark]

/-- A class with a letter in its name stores no private name without the mark. -/
theorem marked_of_isStored (hletter : ∃ c ∈ className.toList, c ≠ '_')
    (h : IsStored className stored) (hstored : stored.toList = '_' :: '_' :: r)
    (hend : ¬['_', '_'] <:+ stored.toList) : privateMark className <+: stored.toList := by
  obtain ⟨name, hdot, rfl⟩ := h
  by_cases hprivate : ['_', '_'] <+: name.toList ∧ ¬['_', '_'] <:+ name.toList
  · obtain ⟨⟨s, hs⟩, hname⟩ := hprivate
    rw [storedName_of_private hletter hs.symm hname hdot, String.toList_ofList]
    exact List.prefix_append _ _
  · have hsame : storedName className name = name := by
      rw [← List.isPrefixOf_iff_prefix, ← List.isSuffixOf_iff_suffix] at hprivate
      rw [storedName, if_neg]
      simp only [Bool.and_eq_true, Bool.not_eq_true'] at hprivate ⊢
      rintro ⟨⟨hmark, -⟩, -⟩
      simp [hmark] at hprivate
    rw [hsame] at hstored hend
    exact absurd ⟨⟨r, hstored.symm⟩, hend⟩ hprivate

/-- The second name is the first one, which begins with two underscores and no third, behind one
more. -/
def Shadows (name shadow : String) : Prop :=
  shadow.toList = '_' :: name.toList ∧ ['_', '_'] <+: name.toList ∧
    ¬['_', '_', '_'] <+: name.toList ∧ ¬['_', '_'] <:+ name.toList

instance (name shadow : String) : Decidable (Shadows name shadow) :=
  inferInstanceAs (Decidable (_ ∧ _))

theorem privateMark_of_underscores (hunderscores : ∀ c ∈ className.toList, c = '_') :
    privateMark className = ['_', '_', '_'] := by
  have hnone : className.toList.dropWhile (· = '_') = [] := by
    rw [← List.append_nil className.toList,
      List.dropWhile_append_of_pos (by simpa using hunderscores)]
    rfl
  rw [privateMark, hnone]
  rfl

theorem shadows_of_mark {stored' : String} (h' : IsStored className stored')
    (hstored : stored.toList = privateMark className ++ r) (hend : ¬['_', '_'] <:+ stored.toList)
    (hplain : ¬(privateMark className <+: stored'.toList ∧ ¬['_', '_'] <:+ stored'.toList))
    (heq : stored' = String.ofList ('_' :: '_' :: r)) :
    (∀ c ∈ className.toList, c = '_') ∧ Shadows stored' stored := by
  have hname : stored'.toList = '_' :: '_' :: r := by rw [heq, String.toList_ofList]
  have hend' : ¬['_', '_'] <:+ stored'.toList := by
    rwa [hname, ← underscores_suffix_iff, ← privateMark_append, ← hstored]
  have hmark : ¬privateMark className <+: stored'.toList := fun hmark => hplain ⟨hmark, hend'⟩
  have hunderscores : ∀ c ∈ className.toList, c = '_' := by
    intro c hc
    apply Decidable.byContradiction
    intro hne
    exact hmark (marked_of_isStored ⟨c, hc, hne⟩ h' hname hend')
  rw [privateMark_of_underscores hunderscores] at hstored hmark
  refine ⟨hunderscores, ?_, ⟨r, hname.symm⟩, hmark, hend'⟩
  rw [hstored, hname]
  rfl

theorem writtenName_of_shadows {shadow : String} (hunderscores : ∀ c ∈ className.toList, c = '_')
    (h : Shadows name shadow) : (writtenName className shadow).1 = name ∧
      (writtenName className name).1 = name := by
  obtain ⟨hshadow, ⟨r, hr⟩, hthird, hend⟩ := h
  have hmark := privateMark_of_underscores hunderscores
  have hname : name.toList = '_' :: '_' :: r := hr.symm
  have hmarked : shadow.toList = privateMark className ++ r := by
    rw [hshadow, hmark, hname]
    rfl
  have hend' : ¬['_', '_'] <:+ shadow.toList := by
    rwa [hmarked, privateMark_append, underscores_suffix_iff, ← hname]
  constructor
  · rw [writtenName_of_mark hmarked hend', ← hname, String.ofList_toList]
  · obtain ⟨s, hs, -⟩ | ⟨-, hsame⟩ := writtenName_cases className name
    · rw [hmark] at hs
      exact absurd ⟨s, hs.symm⟩ hthird
    · exact hsame

/-- Two stored names are recorded under one name just if they are the same, or one shadows the other
in a class whose name is made of underscores. -/
theorem writtenName_eq_iff {stored' : String} (h : IsStored className stored)
    (h' : IsStored className stored') :
    (writtenName className stored).1 = (writtenName className stored').1 ↔
      stored = stored' ∨ (∀ c ∈ className.toList, c = '_') ∧
        (Shadows stored stored' ∨ Shadows stored' stored) := by
  constructor
  · intro heq
    obtain ⟨r, hr, hend, hname⟩ | ⟨hplain, hname⟩ := writtenName_cases className stored
    · obtain ⟨r', hr', -, hname'⟩ | ⟨hplain', hname'⟩ := writtenName_cases className stored'
      · rw [hname, hname', String.ofList_inj] at heq
        cases heq
        exact .inl (String.toList_inj.1 (hr.trans hr'.symm))
      · have hshadow := shadows_of_mark h' hr hend hplain' (hname' ▸ heq ▸ hname)
        exact .inr ⟨hshadow.1, .inr hshadow.2⟩
    · obtain ⟨r', hr', hend', hname'⟩ | ⟨-, hname'⟩ := writtenName_cases className stored'
      · have hshadow := shadows_of_mark h hr' hend' hplain (hname ▸ heq ▸ hname')
        exact .inr ⟨hshadow.1, .inl hshadow.2⟩
      · exact .inl (hname ▸ heq ▸ hname')
  · rintro (rfl | ⟨hunderscores, hshadow | hshadow⟩)
    · rfl
    · obtain ⟨hshadow, hname⟩ := writtenName_of_shadows hunderscores hshadow
      exact hname.trans hshadow.symm
    · obtain ⟨hshadow, hname⟩ := writtenName_of_shadows hunderscores hshadow
      exact hshadow.trans hname.symm

end Mark

namespace Class

/-- The definition has put every member under a name that it can store, and no two under one. -/
structure Defined (c : Class) : Prop where
  stored : ∀ m ∈ c.members, IsStored c.name m.1
  distinct : (Assoc.keys c.members).Nodup

/-- No member shadows another one in a class whose name is made of underscores. -/
def Unshadowed (c : Class) : Prop :=
  (∀ ch ∈ c.name.toList, ch = '_') → ∀ m ∈ c.members, ∀ m' ∈ c.members, ¬Shadows m.1 m'.1

variable {c : Class}

theorem methodOf?_eq_some {m : String × Member} {d : DeclaredMethod} (h : c.methodOf? m = some d) :
    d.stored = m.1 ∧ d.name = (writtenName c.name m.1).1 := by
  obtain ⟨callee, -, hd⟩ := Option.map_eq_some_iff.1 h
  subst hd
  exact ⟨rfl, rfl⟩

/-- The methods of a class that its definition has made are declared under different names. -/
theorem Defined.nodup_names (h : c.Defined) (hplain : c.Unshadowed) :
    (c.declaredMethods.map (·.name)).Nodup := by
  have hmembers : c.members.Pairwise fun m m' => m.1 ≠ m'.1 := List.pairwise_map.1 h.distinct
  have hwritten : c.members.Pairwise fun m m' =>
      (writtenName c.name m.1).1 ≠ (writtenName c.name m'.1).1 := by
    apply hmembers.imp_of_mem
    intro m m' hm hm' hne heq
    obtain hsame | ⟨hunderscores, hshadow | hshadow⟩ :=
      (writtenName_eq_iff (h.stored m hm) (h.stored m' hm')).1 heq
    · exact hne hsame
    · exact hplain hunderscores m hm m' hm' hshadow
    · exact hplain hunderscores m' hm' m hm hshadow
  rw [List.Nodup, List.pairwise_map, declaredMethods]
  refine List.Pairwise.filterMap _ ?_ (hwritten.sublist List.filter_sublist)
  intro m m' hne d hd d' hd'
  rw [(methodOf?_eq_some hd).2, (methodOf?_eq_some hd').2]
  exact hne

theorem Defined.nodup_qualifiedNames (h : c.Defined) (hplain : c.Unshadowed)
    (options : MethodFilter) :
    ((Reflection.methodsWith c options).map (·.record.qualifiedName)).Nodup := by
  have hnames := h.nodup_names hplain
  rw [List.Nodup, List.pairwise_map] at hnames
  have hjoined : c.declaredMethods.Pairwise fun m m' =>
      joinMethodName c.qualifiedName m.name ≠ joinMethodName c.qualifiedName m'.name :=
    hnames.imp fun hne heq => hne (joinMethodName_right_inj.1 heq)
  rw [Reflection.qualifiedNames_methodsWith, List.Nodup, List.pairwise_map]
  refine List.Pairwise.sublist ?_ hjoined
  exact List.filter_sublist.trans (List.filter_sublist.trans List.filter_sublist)

end Class

namespace Index

/-- Adding methods files their records one after the other, up to the first with a fault. -/
theorem methods_addMethods (methods : List MethodReflection) (i : Index) :
    ∃ added, added <+: methods ∧ ((addMethods methods i).fault = none → added = methods) ∧
      (addMethods methods i).index.methods.entries = added.foldl
        (fun t m => Assoc.put m.record.qualifiedName m.record t) i.methods.entries := by
  induction methods generalizing i with
  | nil => exact ⟨[], List.nil_prefix, fun _ => rfl, rfl⟩
  | cons m methods ih =>
      rw [addMethods]
      dsimp only
      cases hfault : (i.addMethod m.record m.purposes).fault with
      | some fault =>
          refine ⟨[], List.nil_prefix, fun h => ?_, ?_⟩
          · rw [hfault] at h
            cases h
          · simp only [addMethod] at hfault ⊢
            rw [hfault]
            rfl
      | none =>
          obtain ⟨added, hadded, hall, hentries⟩ := ih (i.addMethod m.record m.purposes).index
          refine ⟨m :: added, List.cons_prefix_cons.2 ⟨rfl, hadded⟩, fun h => ?_, ?_⟩
          · rw [hall h]
          · rw [List.foldl_cons, hentries]
            simp only [addMethod] at hfault ⊢
            rw [hfault]
            rfl

/-- The records of a reflection all stay in the index if their names are different. -/
theorem get?_addReflection {r : Reflection}
    (h : (r.methods.map (·.record.qualifiedName)).Nodup) (i : Index) :
    ∃ added, added <+: r.methods ∧ ((i.addReflection r).fault = none → added = r.methods) ∧
      ∀ m ∈ added, (i.addReflection r).index.methods.get? m.record.qualifiedName =
        some m.record := by
  rw [addReflection]
  dsimp only
  cases hfault : (i.addClass r.record r.purposes).fault with
  | some fault =>
      refine ⟨[], List.nil_prefix, fun h => ?_, fun m hm => absurd hm List.not_mem_nil⟩
      rw [hfault] at h
      cases h
  | none =>
      obtain ⟨added, hadded, hall, hentries⟩ :=
        methods_addMethods r.methods (i.addClass r.record r.purposes).index
      refine ⟨added, hadded, hall, fun m hm => ?_⟩
      rw [Table.get?, hentries]
      exact Assoc.get?_foldl_put_of_mem _ _ (h.sublist (hadded.sublist.map _)) hm _

end Index

open Reflection

/-- Two names that the definition of a class can store are recorded under one name just if one
shadows the other and the name of the class is made of underscores. So the method records of a class
have different names where no member is shadowed like this, which none is in a class with a letter
in its name; and however the records are merged into an index, each one that is added stays. -/
theorem recordedNames_distinct {c : Class} (hdefined : c.Defined) :
    (∀ stored stored', IsStored c.name stored → IsStored c.name stored' →
      ((writtenName c.name stored).1 = (writtenName c.name stored').1 ↔
        stored = stored' ∨ (∀ ch ∈ c.name.toList, ch = '_') ∧
          (Shadows stored stored' ∨ Shadows stored' stored))) ∧
    (c.Unshadowed → ∀ run registry source moduleName r,
      ofClass run registry c source moduleName = .ok (some r) →
      (r.methods.map (·.record.qualifiedName)).Nodup ∧
      ∀ i : Index, ∃ added, added <+: r.methods ∧
        ((i.addReflection r).fault = none → added = r.methods) ∧
        ∀ m ∈ added, (i.addReflection r).index.methods.get? m.record.qualifiedName =
          some m.record) := by
  refine ⟨fun _ _ => writtenName_eq_iff, fun hplain run registry source moduleName r hr => ?_⟩
  have hnames : (r.methods.map (·.record.qualifiedName)).Nodup := by
    obtain hnone | ⟨options, hmethods⟩ := methods_eq_methodsWith hr
    · rw [hnone]
      exact List.nodup_nil
    · rw [hmethods]
      exact hdefined.nodup_qualifiedNames hplain options
  exact ⟨hnames, Index.get?_addReflection hnames⟩

/-- An exposed class with methods under these names, all of which count. -/
def privateClass (name : String) (stored : List String) : Class :=
  .mk { id := .made 0, name, moduleName := "app", qualifier := name,
        members := stored.map fun s => (s, .function {}) } [.exposed, .methodsExposed]

/-- Gives every hook the filter for methods of any access. -/
def anyAccess : Run := fun _ _ =>
  .ok (.filter (.ofList [.publicAccess, .protectedAccess, .privateAccess]))

theorem defined_privateClass {name : String} {stored : List String} (h : stored.Nodup)
    (hstored : ∀ s ∈ stored, IsStored name s) : (privateClass name stored).Defined := by
  constructor
  · intro m hm
    obtain ⟨s, hs, rfl⟩ := List.mem_map.1 hm
    exact hstored s hs
  · have hkeys : Assoc.keys (privateClass name stored).members = stored := by
      simp [Assoc.keys, privateClass, Class.members, Class.body, Function.comp_def]
    rwa [hkeys]

theorem recordedNames_distinct_log :
    let c := privateClass "_Log" ["_Log__write", "__init__", "_Log___write", "_write"]
    c.Defined ∧ c.Unshadowed ∧ ∃ r, ofClass anyAccess [] c "" none = .ok (some r) ∧
      r.methods.map (·.record.qualifiedName) =
        ["app._Log::__write", "app._Log::__init__", "app._Log::___write", "app._Log::_write"] ∧
      (r.methods.map (·.record.qualifiedName)).Nodup := by
  intro c
  have hdefined : c.Defined := by
    apply defined_privateClass (by simp)
    intro s hs
    simp only [List.mem_cons, List.not_mem_nil, or_false] at hs
    rcases hs with rfl | rfl | rfl | rfl
    · exact ⟨"__write", by decide, by decide +kernel⟩
    · exact ⟨"__init__", by decide, by decide +kernel⟩
    · exact ⟨"___write", by decide, by decide +kernel⟩
    · exact ⟨"_write", by decide, by decide +kernel⟩
  have hplain : c.Unshadowed := fun h => absurd (h 'L' (by decide)) (by decide)
  have hnames : (ofClass anyAccess [] c "" none).toOption.join.map
      (fun r => r.methods.map (·.record.qualifiedName)) = some
        ["app._Log::__write", "app._Log::__init__", "app._Log::___write", "app._Log::_write"] := by
    decide +kernel
  obtain ⟨r, hr, hmethods⟩ := Option.map_eq_some_iff.1 hnames
  have hreflected : ofClass anyAccess [] c "" none = .ok (some r) := by
    cases h : ofClass anyAccess [] c "" none with
    | error e => simp [h, Except.toOption] at hr
    | ok o => simpa [h, Except.toOption] using hr
  obtain ⟨hdistinct, -⟩ := (recordedNames_distinct hdefined).2 hplain _ _ _ _ r hreflected
  exact ⟨hdefined, hplain, r, hreflected, hmethods, hdistinct⟩

/-- In a class whose name is made of underscores two methods can come to one record. -/
theorem recordedNames_shadowed :
    (IsStored "_" "__write" ∧ IsStored "_" "___write") ∧
    (writtenName "_" "__write").1 = (writtenName "_" "___write").1 ∧
    (methodsWith (privateClass "_" ["__write", "___write"]) .empty).map
      (·.record.qualifiedName) = ["app._::__write", "app._::__write"] := by
  have hstored (name : String) (hdot : '.' ∉ name.toList) : IsStored "_" name :=
    ⟨name, hdot, storedName_of_underscores (by simp) name⟩
  exact ⟨⟨hstored _ (by decide), hstored _ (by decide)⟩, by decide +kernel, by decide +kernel⟩

end Exposure
