import Exposure.Config.Basic
import Exposure.Proofs.Config.Extension

/-!
The directories that the settings name stay within the repository. Where the root of the repository
and the entry can be followed to an end, the directory is the place where following ends if this
lies within the root, and a refusal in words otherwise. A link that never ends takes this away: what
stands behind it on the path is then no longer followed.
-/
namespace Exposure

namespace FileSystem

/-- With every link on it followed the path ends at the position; what does not exist is no link. -/
def EndsAt (fs : FileSystem) (p : Path) (position : List String) : Prop :=
  ∃ n, Leads fs.root (fs.start p) p.parts n position

variable {fs : FileSystem} {p : Path} {position : List String}

theorem EndsAt.unique {q : List String} (h : fs.EndsAt p position) (h' : fs.EndsAt p q) :
    position = q := by
  obtain ⟨n, hn⟩ := h
  obtain ⟨m, hm⟩ := h'
  exact (hn.deterministic hm).2

theorem EndsAt.realPath (h : fs.EndsAt p position) (hnul : p.hasNul = false) :
    fs.realPath p = .ok (Path.absolute position) := by
  obtain ⟨n, hn⟩ := h
  exact realPath_of_leads hnul hn

/-- Where an absolute path ends no link is left to be followed. -/
theorem EndsAt.of_absolute (h : fs.EndsAt p position) (habsolute : p.isAbsolute = true) :
    fs.EndsAt (Path.absolute position) position := by
  obtain ⟨n, hn⟩ := h
  rw [start, if_pos habsolute] at hn
  have hstraight : Straight fs.root ([] ++ position) := hn.straight (straight_nil fs.root)
  exact ⟨0, hstraight.leads⟩

end FileSystem

namespace Path

theorem relativeTo?_absolute {position above : List String} :
    ((absolute position).relativeTo? (absolute above)).isSome = true ↔ above <+: position := by
  rw [relativeTo?]
  simp only [absolute, true_and, List.isPrefixOf_iff_prefix]
  split
  · simpa
  · simpa

end Path

namespace Config

open FileSystem

/-- Following the root of a repository ends at one position, following an entry of its settings from
there at another, and both are paths that a file system can be asked for. -/
structure Locates (fs : FileSystem) (root : Path) (entry : String)
    (above position : List String) : Prop where
  root_endsAt : fs.EndsAt root above
  root_hasNul : root.hasNul = false
  endsAt : fs.EndsAt ((Path.absolute above).join (Path.ofString entry)) position
  hasNul : ((Path.absolute above).join (Path.ofString entry)).hasNul = false

variable {fs : FileSystem} {root : Path} {above position : List String} {entry : String}

theorem isRelative_iff : isRelative entry = true ↔ entry ≠ "" ∧
    (decide (entry.toList.head? = some '~') || (Path.ofString entry).isAbsolute) = false := by
  simp only [isRelative, Bool.and_eq_true, decide_eq_true_eq, Bool.not_eq_true',
    Bool.or_eq_false_iff, decide_eq_false_iff_not, and_assoc]
  exact and_congr_right fun _ => and_comm

/-- No link is left to be followed on the way to where a relative entry is located. -/
theorem Locates.endsAt_absolute (h : Locates fs root entry above position)
    (hrelative : isRelative entry = true) : fs.EndsAt (Path.absolute position) position := by
  obtain ⟨-, hplace⟩ := isRelative_iff.1 hrelative
  rw [Bool.or_eq_false_iff] at hplace
  refine h.endsAt.of_absolute ?_
  rw [Path.join, if_neg (by simp [hplace.2])]
  rfl

/-- An entry that is empty, absolute or in a home directory is refused in words. -/
theorem resolveWithin_of_not_relative (fs : FileSystem) (root : Path) (label : String)
    (h : isRelative entry = false) :
    ∃ e, resolveWithin fs root entry label = .error e ∧ e.message?.isSome = true := by
  rw [← Bool.not_eq_true, isRelative_iff, not_and, Bool.not_eq_false] at h
  by_cases hempty : entry = ""
  · exact ⟨.empty label, by rw [resolveWithin, if_pos hempty]; rfl, rfl⟩
  · exact ⟨.notRelative label, by rw [resolveWithin, if_neg hempty, if_pos (h hempty)]; rfl, rfl⟩

theorem resolveWithin_of_relative {realRoot : Path} (hrelative : isRelative entry = true)
    (hroot : fs.realPath root = .ok realRoot) (label : String) :
    resolveWithin fs root entry label =
      ((fs.realPath (realRoot.join (Path.ofString entry))).mapError .unresolved).bind fun real =>
        if (real.relativeTo? realRoot).isSome then .ok real else .error (.escapes label entry) := by
  obtain ⟨hempty, hplace⟩ := isRelative_iff.1 hrelative
  simp only [resolveWithin, hempty, if_false, hplace, Bool.false_eq_true, hroot, Except.mapError,
    pure, Except.pure, bind, Except.bind]
  cases hreal : fs.realPath (realRoot.join (Path.ofString entry)) with
  | error reason => rfl
  | ok real => cases hwithin : real.relativeTo? realRoot <;> simp [hwithin, throw, throwThe,
      MonadExceptOf.throw]

/-- A relative entry is the directory where it is located, if this lies within the root. -/
theorem Locates.resolveWithin (h : Locates fs root entry above position)
    (hrelative : isRelative entry = true) (label : String) :
    resolveWithin fs root entry label =
      if above <+: position then .ok (Path.absolute position)
      else .error (.escapes label entry) := by
  rw [resolveWithin_of_relative hrelative (h.root_endsAt.realPath h.root_hasNul),
    h.endsAt.realPath h.hasNul]
  simp only [Except.mapError, Except.bind, Path.relativeTo?_absolute]

theorem resolveSearchPaths_singleton (fs : FileSystem) (root : Path) (entry : String) :
    resolveSearchPaths fs root [entry] =
      (Config.resolveWithin fs root entry "search path").map fun real => [real] := by
  rw [resolveSearchPaths, List.mapM_cons, List.mapM_nil]
  cases Config.resolveWithin fs root entry "search path" <;> rfl

/-- The settings have no words for a file that is no text, or whose text stops at an integer that is
too long, and for no other file. -/
theorem load_wordless_iff (fs : FileSystem) (root : Path) :
    (∃ e, load fs root = .error e ∧ e.message? = none) ↔
      ∃ bytes, fs.bytes? (root.child fileName) = some bytes ∧
        (String.fromUTF8? bytes = none ∨ ∃ text, String.fromUTF8? bytes = some text ∧
          Toml.ofText text = .error .longInteger) := by
  cases hbytes : fs.bytes? (root.child fileName) with
  | none => simp [load, hbytes]
  | some bytes =>
      cases htext : String.fromUTF8? bytes with
      | none => simp [load, hbytes, htext, LoadError.message?]
      | some text =>
          cases hread : Toml.ofText text with
          | error refusal =>
              cases refusal <;>
                simp [load, hbytes, htext, ofText, hread, LoadError.message?]
          | ok ms =>
              cases hsettings : ofMembers ms <;>
                simp [load, hbytes, htext, ofText, hread, hsettings, Except.mapError,
                  LoadError.message?]

end Config
end Exposure
