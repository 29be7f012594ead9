import Exposure.Discovery.Context
import Exposure.Proofs.Artifact.Persistence
import Exposure.Proofs.Symbol.Answers

/-!
The result of a discovery and the cache over its document tell the same. The document keeps the
order of the records, what it does to a tree no search can see, and of the texts it loses only the
empty ones; and looking symbols up changes no answer.
-/
namespace Exposure

namespace PurposeTree

variable {token : String → Prop} {entry : Json → Prop}

/-- The entry is a name. -/
def IsName (e : Json) : Prop := ∃ name, e = .string name

theorem shaped_of_members {ms : List (String × Json)}
    (h : ∀ m ∈ ms, m.1 ≠ bucketKey →
      ∃ inner, m.2 = .object inner ∧ HasBucket entry inner ∧ Shaped (fun _ => True) entry inner) :
    Shaped (fun _ => True) entry ms := by
  induction ms with
  | nil => exact .nil
  | cons m ms ih =>
      obtain ⟨key, v⟩ := m
      have hrest := ih fun m hm => h m (List.mem_cons_of_mem _ hm)
      by_cases hk : key = bucketKey
      · subst hk
        exact .bucket hrest
      · obtain ⟨inner, rfl, hb, hi⟩ := h _ List.mem_cons_self hk
        exact .node hk trivial hb hi hrest

theorem shaped_complete {ms : List (String × Json)} (h : Complete ms) :
    HasBucket IsName ms ∧ Shaped (fun _ => True) IsName ms := by
  refine complete_induction (fun ms _ ih => ⟨fun v hv => ?_, shaped_of_members fun m hm hk => ?_⟩) h
  · rcases ih _ (Assoc.mem_of_get? hv) with ⟨-, names, rfl⟩ | ⟨hne, -⟩
    · exact ⟨_, rfl, fun e he => by
        obtain ⟨name, -, rfl⟩ := List.mem_map.1 he
        exact ⟨name, rfl⟩⟩
    · exact absurd rfl hne
  · rcases ih m hm with ⟨hkey, -⟩ | ⟨-, inner, hinner, hb, hi⟩
    · exact absurd hkey hk
    · exact ⟨inner, hinner, hb, hi⟩

theorem shaped_planted {t : PurposeTree} (h : Planted t) :
    Shaped (fun _ => True) IsName t.members :=
  shaped_of_members fun _ hm _ => by
    obtain ⟨inner, hinner, hcomplete⟩ := h.member hm
    exact ⟨inner, hinner, shaped_complete hcomplete⟩

/-- Every search of a planted tree succeeds, and finds the same in the normal form of the tree. -/
theorem search_planted {t : PurposeTree} (h : Planted t) (pattern : String) (ancestors : Bool) :
    ∃ hits, t.search pattern ancestors = .ok hits ∧
      t.normal.search pattern ancestors = .ok hits := by
  obtain ⟨hits, hsearch, -⟩ := entry_of_search (shaped_planted h) pattern ancestors
  exact ⟨hits, hsearch, (search_normal t pattern ancestors).trans hsearch⟩

end PurposeTree

namespace Artifact

/-- The document of an index with planted trees is read as the index with normal trees and records
as they read back. -/
theorem ofMembers_ofIndex {i : Index} (h : i.Grown) :
    ∃ ms, ofIndex i = .object ms ∧ ofMembers ms = .ok i.normalTrees.readBack := by
  refine ⟨sectionsOf i.normalTrees, ofIndex_eq_sectionsOf i, ?_⟩
  rw [ofMembers, toIndex_sectionsOf (PurposeTree.memberFault?_planted h.classTree)
    (PurposeTree.memberFault?_planted h.methodTree)]

end Artifact

namespace SymbolCache

/-- Looking a name with a record up gives a symbol with this record, at any time. -/
theorem exposedClass_after (i : Index) (calls : List Call) {name : String} {r : ClassRecord}
    (hr : i.classes.get? name = some r) :
    ∃ k s, ((after i calls).exposedClass name).1 = some k ∧
      ((after i calls).exposedClass name).2.classSymbol? k = some s ∧ s.record = r := by
  obtain ⟨hsound, -, hsettled, hnumber⟩ := exposedClass_spec (sound_after i calls) name
  obtain ⟨k, hk, -⟩ := hsound.loaded.classes.exists_number hr hsettled
  obtain ⟨s, hs, hrecord⟩ := hsound.loaded.classSymbol hk
  exact ⟨k, s, hnumber.trans hk, hs, Option.some.inj (hrecord.symm.trans hr)⟩

end SymbolCache

namespace Discovery

/-- The result of a discovery and a cache answer every question that both can be asked alike: what
is under a pattern, what is exposed, and of each exposed class what a name stands for in its file
and which module it belongs to, where no text of the cache is empty. -/
structure Agrees (d : Discovery) (c : SymbolCache) : Prop where
  classes : ∀ pattern ancestors, ∃ hits,
    d.findClasses pattern ancestors = .ok hits ∧ c.classPurposes.search pattern ancestors = .ok hits
  methods : ∀ pattern ancestors, ∃ hits,
    d.findMethodsByPurpose pattern ancestors = .ok hits ∧
      c.methodPurposes.search pattern ancestors = .ok hits
  classNames : d.exposedClassNames = c.classNames
  methodNames : d.exposedMethodNames = c.methodNames
  symbols : ∀ className ∈ d.exposedClassNames, ∃ k s,
    (c.exposedClass className).1 = some k ∧
    (c.exposedClass className).2.classSymbol? k = some s ∧
    (∀ name, d.qualify? name className =
      some ((Assoc.get? name s.record.importAliases).getD name)) ∧
    (d.moduleNameOf? className).filter (· ≠ "") = s.record.moduleName

theorem agrees_of_grown {d : Discovery} (h : d.index.Grown) (lookUps : List Call) :
    d.Agrees (SymbolCache.after d.index.normalTrees.readBack lookUps) := by
  have hloaded := (SymbolCache.sound_after d.index.normalTrees.readBack lookUps).loaded
  obtain ⟨hclassNames, hmethodNames⟩ :=
    Prod.mk.inj (SymbolCache.listedNames_after d.index.normalTrees.readBack lookUps)
  constructor
  case classes =>
    intro pattern ancestors
    rw [hloaded.classPurposes]
    exact PurposeTree.search_planted h.classTree pattern ancestors
  case methods =>
    intro pattern ancestors
    rw [hloaded.methodPurposes]
    exact PurposeTree.search_planted h.methodTree pattern ancestors
  case classNames => exact (hclassNames.trans (Table.keys_mapValues _ _)).symm
  case methodNames => exact (hmethodNames.trans (Table.keys_mapValues _ _)).symm
  case symbols =>
    intro className hname
    obtain ⟨r, hr⟩ := Table.mem_keys_iff.1 hname
    have hread : d.index.normalTrees.readBack.classes.get? className =
        some (r.readBack className) := by
      rw [Index.readBack, Table.get?_mapValues, Index.normalTrees, hr, Option.map_some]
    obtain ⟨k, s, hk, hs, hrecord⟩ := SymbolCache.exposedClass_after _ lookUps hread
    refine ⟨k, s, hk, hs, fun name => ?_, ?_⟩
    · rw [qualify?, hr, hrecord, ClassRecord.readBack, Option.map_some]
    · rw [moduleNameOf?, hr, hrecord, ClassRecord.readBack, Option.bind_some]

/-- Whatever calls have built the index of a result, blocked ones included, its document can be
read, and the result agrees with the cache over what is read, after any look-ups in this cache. -/
theorem agrees_after (d : Discovery) (calls : List Index.Call) :
    ∃ ms restored, Artifact.ofIndex (Index.afterCalls calls {}) = .object ms ∧
      Artifact.ofMembers ms = .ok restored ∧
      ∀ lookUps, Agrees { d with index := Index.afterCalls calls {} }
        (SymbolCache.after restored lookUps) := by
  have hgrown := Index.grown_empty.afterCalls calls
  obtain ⟨ms, hdocument, hread⟩ := Artifact.ofMembers_ofIndex hgrown
  exact ⟨ms, _, hdocument, hread, fun lookUps => agrees_of_grown hgrown lookUps⟩

end Discovery
end Exposure
