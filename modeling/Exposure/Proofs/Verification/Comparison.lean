import Exposure.Proofs.Artifact.Change
import Exposure.Proofs.Scan.Below
import Exposure.Verification

/-!
What a verification reports. The content of a directory is a map from relative paths to bytes, with
an entry for each file and none for anything else. Of two such maps every path at which they differ
is reported once, in one of three lists, and no other path is; the directories pass just if the maps
are the same.
-/
namespace Exposure

theorem Table.entries_ofList {α : Type} {pairs : List (String × α)}
    (h : (Assoc.keys pairs).Nodup) : (Table.ofList pairs).entries = pairs := by
  have hfold (t : Table α) (pairs : List (String × α)) :
      (pairs.foldl (fun t p => t.insert p.1 p.2) t).entries =
        pairs.foldl (fun m p => Assoc.put p.1 p.2 m) t.entries := by
    induction pairs generalizing t with
    | nil => rfl
    | cons p pairs ih => exact ih (t.insert p.1 p.2)
  have hput : pairs.foldl (fun m p => Assoc.put p.1 p.2 m) [] = pairs.map fun p => (p.1, p.2) :=
    Assoc.foldl_put_of_nodup Prod.fst Prod.snd (m := []) h
  rw [ofList, hfold, show (empty : Table α).entries = [] from rfl, hput]
  exact List.map_id pairs

namespace FileSystem

variable {fs : FileSystem} {directory : Path} {position : List String}

/-- The files below a directory with their relative paths. -/
def filesBelow (fs : FileSystem) (position : List String) (e : Entry) :
    List (String × ByteArray) :=
  (e.descendants []).filterMap fun d =>
    (fs.bytes? (Path.absolute (position ++ d.1))).map fun bytes => ("/".intercalate d.1, bytes)

theorem snapshot_eq {e : Entry} (hposition : fs.directoryPosition? directory = some position)
    (he : fs.root.at? position = some e) :
    fs.snapshot directory = Table.ofList (fs.filesBelow position e) := by
  simp only [snapshot, hposition, he, Option.map_some, Option.getD_some]
  rfl

theorem mem_descendants_iff {e : Entry} (hwell : fs.root.WellFormed)
    (he : fs.root.at? position = some e) {d : List String × Entry} :
    d ∈ e.descendants [] ↔ d.1 ≠ [] ∧ fs.root.at? (position ++ d.1) = some d.2 := by
  rw [Entry.mem_descendants (hwell.at? he), Entry.at?_append, he, Option.bind_some]

/-- No two files below a directory have one relative path. -/
theorem nodup_filesBelow {e : Entry} (hwell : fs.root.WellFormed)
    (he : fs.root.at? position = some e) : (Assoc.keys (fs.filesBelow position e)).Nodup := by
  have hnamed {d : List String × Entry} (hd : d ∈ e.descendants []) : Scan.Named ⟨{}, d.1⟩ := by
    obtain ⟨hparts, hentry⟩ := (mem_descendants_iff hwell he).1 hd
    exact ⟨hparts, fun name hname => hwell.isEntryName hentry name (by simp [hname])⟩
  have hnodup := List.pairwise_map.1 (Entry.nodup_descendants (hwell.at? he) [])
  rw [Assoc.keys, List.Nodup, List.pairwise_map, filesBelow, List.pairwise_filterMap]
  refine hnodup.imp_of_mem fun {d d'} hd hd' hne p hp p' hp' heq => hne ?_
  obtain ⟨_, -, rfl⟩ := Option.map_eq_some_iff.1 hp
  obtain ⟨_, -, rfl⟩ := Option.map_eq_some_iff.1 hp'
  exact Scan.parts_eq_of_relativePath_eq (hnamed hd) (hnamed hd') heq

/-- The snapshot of a directory holds each file below it under its relative path, and nothing
else. -/
theorem get?_snapshot_iff (hwell : fs.root.WellFormed)
    (hposition : fs.directoryPosition? directory = some position) {path : String}
    {bytes : ByteArray} :
    (fs.snapshot directory).get? path = some bytes ↔
      ∃ parts, parts ≠ [] ∧ (fs.root.at? (position ++ parts)).isSome = true ∧
        fs.bytes? (Path.absolute (position ++ parts)) = some bytes ∧
        path = "/".intercalate parts := by
  obtain ⟨-, ⟨cs, hcs⟩, -⟩ := leads_of_directoryPosition? hposition
  rw [snapshot_eq hposition hcs, ← Table.mem_entries_iff (e := (path, bytes)),
    Table.entries_ofList (nodup_filesBelow hwell hcs), filesBelow, List.mem_filterMap]
  simp only [Option.map_eq_some_iff, Prod.mk.injEq, mem_descendants_iff hwell hcs]
  constructor
  · rintro ⟨d, ⟨hparts, hentry⟩, bytes, hbytes, rfl, rfl⟩
    exact ⟨d.1, hparts, Option.isSome_iff_exists.2 ⟨d.2, hentry⟩, hbytes, rfl⟩
  · rintro ⟨parts, hparts, hentry, hbytes, rfl⟩
    obtain ⟨e, he⟩ := Option.isSome_iff_exists.1 hentry
    exact ⟨(parts, e), ⟨hparts, he⟩, bytes, hbytes, rfl, rfl⟩

end FileSystem

namespace Comparison

/-- Every path at which two directories differ stands in one list, the one for how they differ, and
no other path in any. Symbols are listed only where the artifact itself differs, in records. -/
structure Divides (kept made : Table ByteArray) (c : Comparison) : Prop where
  mem_missing : ∀ p, p ∈ c.missing ↔ (kept.get? p).isSome = true ∧ made.get? p = none
  mem_extra : ∀ p, p ∈ c.extra ↔ kept.get? p = none ∧ (made.get? p).isSome = true
  mem_mismatches : ∀ p, p ∈ c.mismatches ↔
    ∃ x y, kept.get? p = some x ∧ made.get? p = some y ∧ x ≠ y
  sorted : c.missing.Pairwise (· < ·) ∧ c.extra.Pairwise (· < ·) ∧ c.mismatches.Pairwise (· < ·)
  disjoint : c.missing.Disjoint c.extra ∧ c.missing.Disjoint c.mismatches ∧
    c.extra.Disjoint c.mismatches
  together : ∀ p, (p ∈ c.missing ∨ p ∈ c.extra ∨ p ∈ c.mismatches) ↔ kept.get? p ≠ made.get? p
  ok_iff : c.ok = true ↔ ∀ p, kept.get? p = made.get? p
  changed : c.changedSymbols ≠ [] → Artifact.fileName ∈ c.mismatches ∧
    ∃ x y b a, kept.get? Artifact.fileName = some x ∧ made.get? Artifact.fileName = some y ∧
      Artifact.ofBytes (Path.ofString Artifact.fileName) x = .ok b ∧
      Artifact.ofBytes (Path.ofString Artifact.fileName) y = .ok a ∧
      (∀ name, name ∈ c.changedSymbols ↔ b.classes.DiffersAt ClassRecord.Alike a.classes name ∨
        b.methods.DiffersAt Eq a.methods name)

variable {kept made : Table ByteArray} {p : String}

theorem mem_missing : p ∈ (between kept made).missing ↔
    (kept.get? p).isSome = true ∧ made.get? p = none := by
  simp [between, Table.mem_keys_iff, Table.contains, Option.isSome_iff_exists]

theorem mem_extra : p ∈ (between kept made).extra ↔
    kept.get? p = none ∧ (made.get? p).isSome = true := by
  simp [between, Table.mem_keys_iff, Table.contains, Option.isSome_iff_exists, and_comm]

theorem mem_mismatches : p ∈ (between kept made).mismatches ↔
    ∃ x y, kept.get? p = some x ∧ made.get? p = some y ∧ x ≠ y := by
  rw [between, Artifact.mem_sortNames, List.mem_filter, Table.mem_keys_iff]
  cases kept.get? p <;> cases made.get? p <;> simp [← ByteArray.ext_iff]

theorem mem_between_iff : (p ∈ (between kept made).missing ∨ p ∈ (between kept made).extra ∨
    p ∈ (between kept made).mismatches) ↔ kept.get? p ≠ made.get? p := by
  rw [mem_missing, mem_extra, mem_mismatches]
  cases kept.get? p <;> cases made.get? p <;> simp

theorem ok_between_iff : (between kept made).ok = true ↔ ∀ p, kept.get? p = made.get? p := by
  simp only [ok, Bool.and_eq_true, List.isEmpty_iff, List.eq_nil_iff_forall_not_mem, ← forall_and]
  refine forall_congr' fun p => ?_
  rw [← not_iff_not, ← ne_eq (kept.get? p), ← mem_between_iff]
  tauto

/-- Symbols are listed only for two artifacts that can be read, and then those that differ. -/
theorem readable_of_symbolsBetween {x y : ByteArray} (h : symbolsBetween x y ≠ []) :
    ∃ b a, Artifact.ofBytes (Path.ofString Artifact.fileName) x = .ok b ∧
      Artifact.ofBytes (Path.ofString Artifact.fileName) y = .ok a ∧
      symbolsBetween x y = Artifact.changedNames b a := by
  by_contra hnone
  refine h ?_
  have hunreadable : (∀ b, Artifact.ofBytes (Path.ofString Artifact.fileName) x ≠ .ok b) ∨
      ∀ a, Artifact.ofBytes (Path.ofString Artifact.fileName) y ≠ .ok a := by
    by_contra hboth
    simp only [ne_eq, not_or, not_forall, not_not] at hboth
    obtain ⟨⟨b, hb⟩, a, ha⟩ := hboth
    refine hnone ⟨b, a, hb, ha, ?_⟩
    simp only [symbolsBetween, hb, ha, Artifact.changedSymbols]
  simp only [symbolsBetween, Artifact.changedSymbols_of_unreadable hunreadable]

theorem changed_between (h : (between kept made).changedSymbols ≠ []) :
    ∃ x y, kept.get? Artifact.fileName = some x ∧ made.get? Artifact.fileName = some y ∧ x ≠ y ∧
      (between kept made).changedSymbols = symbolsBetween x y := by
  rw [between] at h ⊢
  dsimp only at h ⊢
  split at h
  · rename_i x y hx hy
    split at h
    · exact absurd rfl h
    · rename_i hdata
      exact ⟨x, y, hx, hy, fun heq => hdata (congrArg _ heq), by simp only [hdata, if_false]⟩
  · exact absurd rfl h

theorem divides_between (kept made : Table ByteArray) : Divides kept made (between kept made) where
  mem_missing := fun _ => mem_missing
  mem_extra := fun _ => mem_extra
  mem_mismatches := fun _ => mem_mismatches
  sorted := ⟨Artifact.sortNames_pairwise _, Artifact.sortNames_pairwise _,
    Artifact.sortNames_pairwise _⟩
  disjoint := by
    simp only [List.disjoint_left, mem_missing, mem_extra, mem_mismatches]
    refine ⟨?_, ?_, ?_⟩
    · rintro p ⟨hkept, -⟩ ⟨hnone, -⟩
      simp [hnone] at hkept
    · rintro p ⟨-, hnone⟩ ⟨x, y, -, hy, -⟩
      simp [hnone] at hy
    · rintro p ⟨hnone, -⟩ ⟨x, y, hx, -⟩
      simp [hnone] at hx
  together := fun _ => mem_between_iff
  ok_iff := ok_between_iff
  changed := fun h => by
    obtain ⟨x, y, hx, hy, hne, hsymbols⟩ := changed_between h
    rw [hsymbols] at h ⊢
    obtain ⟨b, a, hb, ha, hnames⟩ := readable_of_symbolsBetween h
    refine ⟨mem_mismatches.2 ⟨x, y, hx, hy, hne⟩, x, y, b, a, hx, hy, hb, ha, fun name => ?_⟩
    rw [hnames, Artifact.mem_changedNames hb ha]

end Comparison

namespace Verification

/-- A verification that comes to an end has compared the two directories as they were then. -/
theorem run_eq_ok {fs : FileSystem} {root directory scratch : Path} {c : Comparison}
    {logs : List LogLine} (h : run fs root directory scratch = (.ok c, logs)) :
    c = .between (fs.snapshot directory) ((Generation.run (fs.makeDirectories scratch).1
      { root, outDir := some scratch } none).fileSystem.snapshot scratch) := by
  unfold run at h
  split at h
  · cases h
  · split at h
    · cases h
    · dsimp only at h
      split at h
      · cases h
      · cases h
        rfl

/-- Whatever two directories hold, comparing them lists each path at which they differ once, for how
they differ, and nothing else; and a verification tells how the kept directory and the one that is
generated compare, each as the files that it holds. -/
theorem run_divides :
    (∀ kept made, Comparison.Divides kept made (.between kept made)) ∧
    (∀ (fs : FileSystem) (root directory scratch : Path) (c : Comparison) (logs : List LogLine),
      run fs root directory scratch = (.ok c, logs) →
      Comparison.Divides (fs.snapshot directory) ((Generation.run (fs.makeDirectories scratch).1
        { root, outDir := some scratch } none).fileSystem.snapshot scratch) c) ∧
    ∀ (fs : FileSystem) (directory : Path) (position : List String), fs.root.WellFormed →
      fs.directoryPosition? directory = some position → ∀ path bytes,
        ((fs.snapshot directory).get? path = some bytes ↔
          ∃ parts, parts ≠ [] ∧ (fs.root.at? (position ++ parts)).isSome = true ∧
            fs.bytes? (Path.absolute (position ++ parts)) = some bytes ∧
            path = "/".intercalate parts) := by
  refine ⟨Comparison.divides_between, fun fs root directory scratch c logs h => ?_,
    fun fs directory position hwell hposition path bytes =>
      FileSystem.get?_snapshot_iff hwell hposition⟩
  rw [run_eq_ok h]
  exact Comparison.divides_between _ _

/-- A directory with an empty artifact. -/
def emptyFiles : Table ByteArray := Table.ofList [(Artifact.fileName, "\x7b\x7d".toUTF8)]

/-- A directory with an artifact that has a class. -/
def plainFiles : Table ByteArray := Table.ofList [(Artifact.fileName, Artifact.plainText.toUTF8)]

theorem run_divides_plain :
    (Comparison.between emptyFiles plainFiles).changedSymbols ≠ [] ∧
    Artifact.fileName ∈ (Comparison.between emptyFiles plainFiles).mismatches ∧
    (Comparison.between emptyFiles plainFiles).ok = false := by
  have hempty : Artifact.ofBytes (Path.ofString Artifact.fileName) "\x7b\x7d".toUTF8 = .ok {} := by
    have hread : Json.ofText? .word "\x7b\x7d" = some (.object []) := by cbv
    rw [Artifact.ofBytes, Json.ofBytes?_toUTF8, hread]
    rfl
  have hplain := Artifact.ofBytes_plainText (Path.ofString Artifact.fileName)
  have hdata : ¬"\x7b\x7d".toUTF8.data = Artifact.plainText.toUTF8.data := fun hdata => by
    rw [ByteArray.ext hdata, hplain] at hempty
    exact absurd (congrArg (fun i => i.classes.size) (Except.ok.inj hempty)) (by decide)
  have hsymbols : (Comparison.between emptyFiles plainFiles).changedSymbols =
      Artifact.changedNames {} Artifact.plainIndex := by
    have hkept : emptyFiles.get? Artifact.fileName = some "\x7b\x7d".toUTF8 := rfl
    have hmade : plainFiles.get? Artifact.fileName = some Artifact.plainText.toUTF8 := rfl
    simp only [Comparison.between, hkept, hmade, hdata, if_false, Comparison.symbolsBetween, hempty,
      hplain, Artifact.changedSymbols]
  have hlog : "Log" ∈ Artifact.changedNames {} Artifact.plainIndex := by
    refine (Artifact.mem_changedNames hempty hplain).2 (.inl fun hrel => ?_)
    cases hrel
  have hchanged : (Comparison.between emptyFiles plainFiles).changedSymbols ≠ [] :=
    hsymbols ▸ List.ne_nil_of_mem hlog
  have hdivides := run_divides.1 emptyFiles plainFiles
  obtain ⟨hmismatch, -⟩ := hdivides.changed hchanged
  refine ⟨hchanged, hmismatch, Bool.eq_false_iff.2 fun hok => ?_⟩
  exact (hdivides.together _).1 (.inr (.inr hmismatch)) (hdivides.ok_iff.1 hok _)

end Verification
end Exposure
