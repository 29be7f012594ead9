import Exposure.Class.Standard
import Mathlib.Data.Fintype.EquivFin
import Mathlib.Data.List.Chain
import Mathlib.Logic.Relation

/-!
Lineages. In a finite hierarchy without cycles the walk from a class to its primary base, and from
there on, comes to an end. What it has met by then is the lineage of the class: each class on it is
the primary base of the next one, the first has none itself, and no class comes twice. The
inheritance of the class, which is put together from the other end, gives the names along it.
-/
namespace Exposure

/-- A class that every hierarchy rests on: the root class, a class that makes others generic,
protocols or abstract, or a marker. -/
def ClassId.IsFoundation (id : ClassId) : Prop :=
  id = root ∨ id = generic ∨ id = protocol ∨ id = abstractBase ∨ id = exposed ∨ id = methodsExposed

theorem ClassId.contains_foundations_iff {id : ClassId} :
    foundations.contains id = true ↔ id.IsFoundation := by
  rw [List.contains_iff_mem]
  simp only [foundations, IsFoundation, List.mem_cons, List.not_mem_nil, or_false]
  tauto

/-- Classes with any lists of bases, none of them among its own ancestors. -/
structure Hierarchy (ι : Type) where
  body : ι → ClassBody
  bases : ι → List ι
  /-- Classes are told apart by identity. -/
  id_injective : Function.Injective fun c => (body c).id
  acyclic : ∀ c, ¬Relation.TransGen (fun b d => b ∈ bases d) c c

namespace Hierarchy

variable {ι : Type} {h : Hierarchy ι} {b c p q : ι} {path path' : List ι}

def IsBase (h : Hierarchy ι) (b c : ι) : Prop := b ∈ h.bases c

def IsFoundation (h : Hierarchy ι) (c : ι) : Prop := (h.body c).id.IsFoundation

/-- The first base that is no foundation. -/
def IsPrimary (h : Hierarchy ι) (p c : ι) : Prop :=
  ∃ before behind, h.bases c = before ++ p :: behind ∧ (∀ b ∈ before, h.IsFoundation b) ∧
    ¬h.IsFoundation p

/-- There is no primary base, as all bases are foundations. -/
def IsTop (h : Hierarchy ι) (c : ι) : Prop := ∀ b ∈ h.bases c, h.IsFoundation b

/-- The path of primary bases that leads down to a class, without the class itself. It begins with a
class that has no primary base. -/
structure IsLineage (h : Hierarchy ι) (path : List ι) (c : ι) : Prop where
  linked : (path ++ [c]).IsChain h.IsPrimary
  isTop : ∀ t ∈ (path ++ [c]).head?, h.IsTop t

def primary? (h : Hierarchy ι) (c : ι) : Option ι :=
  (h.bases c).find? fun b => !ClassId.foundations.contains (h.body b).id

theorem primary?_eq_some_iff : h.primary? c = some p ↔ h.IsPrimary p c := by
  rw [primary?, List.find?_eq_some_iff_append]
  simp only [Bool.not_eq_true', Bool.not_not, Bool.eq_false_iff, ne_eq,
    ClassId.contains_foundations_iff]
  constructor
  · rintro ⟨hp, before, behind, hbases, hbefore⟩
    exact ⟨before, behind, hbases, hbefore, hp⟩
  · rintro ⟨before, behind, hbases, hbefore, hp⟩
    exact ⟨hp, before, behind, hbases, hbefore⟩

theorem primary?_eq_none_iff : h.primary? c = none ↔ h.IsTop c := by
  rw [primary?, List.find?_eq_none]
  simp only [Bool.not_eq_true', Bool.not_eq_false, ClassId.contains_foundations_iff]
  rfl

theorem IsPrimary.isBase (hp : h.IsPrimary p c) : h.IsBase p c := by
  obtain ⟨before, behind, hbases, -⟩ := hp
  rw [IsBase, hbases]
  exact List.mem_append_right before List.mem_cons_self

theorem IsPrimary.unique (hp : h.IsPrimary p c) (hq : h.IsPrimary q c) : p = q :=
  Option.some.inj ((primary?_eq_some_iff.2 hp).symm.trans (primary?_eq_some_iff.2 hq))

theorem IsPrimary.not_isTop (hp : h.IsPrimary p c) : ¬h.IsTop c := by
  rw [← primary?_eq_none_iff, primary?_eq_some_iff.2 hp]
  exact Option.some_ne_none p

/-- No cycle goes through bases that come before their classes. -/
theorem acyclic_of_lt [Preorder ι] {bases : ι → List ι} (hbefore : ∀ c, ∀ b ∈ bases c, b < c)
    (c : ι) : ¬Relation.TransGen (fun b d => b ∈ bases d) c c := by
  intro hcycle
  have hlt : c < c := Relation.transGen_minimal (fun b d => hbefore d b) c c hcycle
  exact lt_irrefl c hlt

theorem wellFounded_isBase [Finite ι] (h : Hierarchy ι) : WellFounded h.IsBase := by
  have hirrefl : Std.Irrefl (Relation.TransGen h.IsBase) := ⟨h.acyclic⟩
  have htrans : WellFounded (Relation.TransGen h.IsBase) :=
    Finite.wellFounded_of_trans_of_irrefl _
  exact Subrelation.wf Relation.TransGen.single htrans

/-- The class of the hierarchy, made of its bases. -/
def classOf [Finite ι] (h : Hierarchy ι) (c : ι) : Class :=
  .mk (h.body c) ((h.bases c).attach.map fun b => h.classOf b.1)
termination_by h.wellFounded_isBase.wrap c
decreasing_by exact b.2

/-- The walk up the hierarchy: as long as there is a class, its name is put before those found so
far, and its primary base is next. -/
inductive Climbs [Finite ι] (h : Hierarchy ι) : Option ι → (found all : List String) → Prop
  | stop {found : List String} : Climbs h none found found
  | round {p : ι} {found all : List String}
      (hrest : Climbs h (h.primary? p) ((h.classOf p).qualifiedName :: found) all) :
      Climbs h (some p) found all

section Finite

variable [Finite ι]

theorem classOf_eq (h : Hierarchy ι) (c : ι) :
    h.classOf c = .mk (h.body c) ((h.bases c).map h.classOf) := by
  rw [classOf, List.attach_map_val]

theorem id_classOf (h : Hierarchy ι) (c : ι) : (h.classOf c).id = (h.body c).id := by
  rw [classOf_eq]
  rfl

theorem primaryBase?_classOf (h : Hierarchy ι) (c : ι) :
    (h.classOf c).primaryBase? = (h.primary? c).map h.classOf := by
  have hfind : ((fun b : Class => !ClassId.foundations.contains b.id) ∘ h.classOf) =
      fun b => !ClassId.foundations.contains (h.body b).id := by
    funext b
    rw [Function.comp_apply, id_classOf]
  rw [classOf_eq, Class.primaryBase?, Class.bases, List.find?_map, hfind]
  rfl

theorem inheritance_of_isTop (hc : h.IsTop c) : (h.classOf c).inheritance = [] := by
  rw [Class.inheritance, Class.lineage_eq, primaryBase?_classOf, primary?_eq_none_iff.2 hc]
  rfl

theorem inheritance_of_isPrimary (hp : h.IsPrimary p c) :
    (h.classOf c).inheritance = (h.classOf p).inheritance ++ [(h.classOf p).qualifiedName] := by
  rw [Class.inheritance, Class.lineage_eq, primaryBase?_classOf, primary?_eq_some_iff.2 hp]
  exact List.map_append

/-- What holds of the classes without a primary base and is handed down from each primary base
holds of all classes. -/
@[elab_as_elim]
theorem primary_induction {motive : ι → Prop} (top : ∀ c, h.IsTop c → motive c)
    (below : ∀ p c, h.IsPrimary p c → motive p → motive c) (c : ι) : motive c := by
  -- A primary base is a base, so that the bases, which close no cycle, carry the induction.
  induction c using h.wellFounded_isBase.induction with
  | h c ih =>
      cases hprimary : h.primary? c with
      | none => exact top c (primary?_eq_none_iff.1 hprimary)
      | some p =>
          have hp := primary?_eq_some_iff.1 hprimary
          exact below p c hp (ih p hp.isBase)

theorem climbs_append (h : Hierarchy ι) (c : ι) (found : List String) :
    h.Climbs (h.primary? c) found ((h.classOf c).inheritance ++ found) := by
  -- The walk goes on with one name more, so the induction is for any names found before.
  induction c using primary_induction (h := h) generalizing found with
  | top c hc =>
      rw [primary?_eq_none_iff.2 hc, inheritance_of_isTop hc]
      exact .stop
  | below p c hp ih =>
      rw [primary?_eq_some_iff.2 hp, inheritance_of_isPrimary hp, List.append_assoc]
      exact .round (ih _)

theorem Climbs.unique {from? : Option ι} {found all all' : List String}
    (hall : h.Climbs from? found all) (hall' : h.Climbs from? found all') : all = all' := by
  induction hall with
  | stop =>
      cases hall'
      rfl
  | round _ ih =>
      cases hall' with
      | round hrest => exact ih hrest

end Finite

theorem isLineage_nil_iff : h.IsLineage [] c ↔ h.IsTop c := by
  constructor
  · intro hnil
    exact hnil.isTop c rfl
  · intro hc
    refine ⟨.singleton c, ?_⟩
    simpa using hc

theorem isLineage_concat_iff :
    h.IsLineage (path ++ [p]) c ↔ h.IsLineage path p ∧ h.IsPrimary p c := by
  have hhead : (path ++ [p] ++ [c]).head? = (path ++ [p]).head? := by
    rw [List.head?_append_of_ne_nil _ (by simp)]
  constructor
  · rintro ⟨hlinked, htop⟩
    rw [hhead] at htop
    rw [List.append_assoc, List.singleton_append, List.isChain_append_cons_cons] at hlinked
    exact ⟨⟨hlinked.1, htop⟩, hlinked.2.1⟩
  · rintro ⟨⟨hlinked, htop⟩, hp⟩
    refine ⟨?_, hhead ▸ htop⟩
    rw [List.append_assoc, List.singleton_append, List.isChain_append_cons_cons]
    exact ⟨hlinked, hp, .singleton c⟩

theorem IsLineage.unique (hpath : h.IsLineage path c) (hpath' : h.IsLineage path' c) :
    path = path' := by
  -- From the lower end, where the class says which primary base comes next.
  induction path using List.reverseRecOn generalizing path' c with
  | nil =>
      cases path' using List.reverseRecOn with
      | nil => rfl
      | append_singleton path' q =>
          exact absurd (isLineage_nil_iff.1 hpath) (isLineage_concat_iff.1 hpath').2.not_isTop
  | append_singleton path p ih =>
      obtain ⟨habove, hp⟩ := isLineage_concat_iff.1 hpath
      cases path' using List.reverseRecOn with
      | nil => exact absurd (isLineage_nil_iff.1 hpath') hp.not_isTop
      | append_singleton path' q =>
          obtain ⟨habove', hq⟩ := isLineage_concat_iff.1 hpath'
          cases hp.unique hq
          rw [ih habove habove']

theorem IsLineage.nodup (hpath : h.IsLineage path c) : (path ++ [c]).Nodup := by
  -- Whatever comes before a class on its lineage is an ancestor of it.
  have hancestors : (path ++ [c]).Pairwise (Relation.TransGen h.IsBase) :=
    (hpath.linked.imp fun _ _ hp => Relation.TransGen.single hp.isBase).pairwise
  refine hancestors.imp ?_
  rintro b _ hb rfl
  exact h.acyclic b hb

theorem exists_isLineage [Finite ι] (h : Hierarchy ι) (c : ι) :
    ∃ path, h.IsLineage path c ∧
      (h.classOf c).inheritance = path.map fun b => (h.classOf b).qualifiedName := by
  induction c using primary_induction (h := h) with
  | top c hc => exact ⟨[], isLineage_nil_iff.2 hc, inheritance_of_isTop hc⟩
  | below p c hp ih =>
      obtain ⟨path, hpath, hnames⟩ := ih
      refine ⟨path ++ [p], isLineage_concat_iff.2 ⟨hpath, hp⟩, ?_⟩
      rw [inheritance_of_isPrimary hp, hnames, List.map_append, List.map_singleton]

/-- The walk up from a class ends, and with nothing but the inheritance of the class: the names
along its one lineage. No class comes twice, neither on the lineage nor as the class itself. -/
theorem inheritance_eq_lineage [Finite ι] (h : Hierarchy ι) (c : ι) :
    (∀ all, h.Climbs (h.primary? c) [] all ↔ all = (h.classOf c).inheritance) ∧
    (∃ path, (∀ path', h.IsLineage path' c ↔ path' = path) ∧
      (h.classOf c).inheritance = path.map (fun b => (h.classOf b).qualifiedName) ∧
      ((path ++ [c]).map fun b => (h.classOf b).id).Nodup) ∧
    (h.IsTop c → (h.classOf c).inheritance = []) ∧
    ∀ p, h.IsPrimary p c →
      (h.classOf c).inheritance = (h.classOf p).inheritance ++ [(h.classOf p).qualifiedName] := by
  have hends : h.Climbs (h.primary? c) [] (h.classOf c).inheritance := by
    simpa using h.climbs_append c []
  refine ⟨fun all => ⟨fun hall => hall.unique hends, fun heq => heq ▸ hends⟩, ?_,
    inheritance_of_isTop, fun p => inheritance_of_isPrimary⟩
  obtain ⟨path, hpath, hnames⟩ := h.exists_isLineage c
  refine ⟨path, fun path' => ⟨fun hpath' => hpath'.unique hpath, fun heq => heq ▸ hpath⟩,
    hnames, ?_⟩
  have hids : Function.Injective fun b => (h.classOf b).id := by
    simpa only [id_classOf] using h.id_injective
  exact hpath.nodup.map hids

def appClass (name : String) (serial : Nat) : ClassBody where
  id := .made serial
  name := name
  moduleName := "app"
  qualifier := name

/-- A handler that carries both markers, a generic class that derives from it first and from a mixin
next, and a class below that. -/
def loggers : Hierarchy (Fin 9) where
  body c := [Class.root.body, Class.abstractBase.body, Class.exposed.body,
    Class.methodsExposed.body, Class.generic.body, appClass "Handler" 0, appClass "Mixin" 1,
    appClass "Log" 2, appClass "RotatingLog" 3][c]
  bases c := [[], [0], [1], [1], [0], [2, 3], [0], [4, 5, 6], [7]][c]
  id_injective := by decide +kernel
  acyclic := acyclic_of_lt (by decide)

theorem inheritance_eq_lineage_loggers :
    loggers.IsLineage [5, 7] 8 ∧
    (∀ all, loggers.Climbs (loggers.primary? 8) [] all ↔ all = ["app.Handler", "app.Log"]) ∧
    (loggers.classOf 8).inheritance = ["app.Handler", "app.Log"] := by
  have hprimary {p c : Fin 9} (h : loggers.primary? c = some p) : loggers.IsPrimary p c :=
    primary?_eq_some_iff.1 h
  have htop : loggers.IsTop 5 := primary?_eq_none_iff.1 (by decide +kernel)
  have hlineage : loggers.IsLineage [5, 7] 8 :=
    isLineage_concat_iff.2 ⟨isLineage_concat_iff.2 ⟨isLineage_nil_iff.2 htop,
      hprimary (by decide +kernel)⟩, hprimary (by decide +kernel)⟩
  obtain ⟨hclimbs, ⟨path, hpath, hnames, -⟩, -⟩ := inheritance_eq_lineage loggers 8
  cases (hpath _).1 hlineage
  have hresult : (loggers.classOf 8).inheritance = ["app.Handler", "app.Log"] := by
    rw [hnames]
    simp only [List.map_cons, List.map_nil, classOf_eq]
    decide +kernel
  exact ⟨hlineage, hresult ▸ hclimbs, hresult⟩

end Hierarchy
end Exposure
