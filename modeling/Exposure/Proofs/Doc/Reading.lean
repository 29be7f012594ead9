import Exposure.Proofs.Doc.Match
import Exposure.Proofs.Pattern.Repetition

/-!
The tags of a text are the tags of its lines. The blanks of a match reach over line ends in front of
its tag and behind it, but no tag is lost, cut or joined with another by this.
-/
namespace Exposure.Doc

open Pattern
open Text (isBlank firstLine)

variable {text : Array Char}

/-- What is to be read from a position on: a line that has begun before holds no tag. -/
def tagsFrom (text : Array Char) (i : Nat) : List Tag :=
  if Anchor.lineStart.holds text tagOptions i then linesTags (text.toList.drop i)
  else furtherTags (text.toList.drop i)

theorem tagsFrom_size_succ (text : Array Char) : tagsFrom text (text.size + 1) = [] := by
  rw [tagsFrom, List.drop_eq_nil_of_le (by simp)]
  split <;> decide

theorem tagsFrom_succ (text : Array Char) (i : Nat) :
    tagsFrom text (i + 1) = furtherTags (text.toList.drop i) := by
  have hchar : text[i]? = (text.toList.drop i).head? := getElem?_position text { position := i }
  have hdrop : text.toList.drop (i + 1) = (text.toList.drop i).drop 1 := List.drop_drop.symm
  rw [tagsFrom, Anchor.holds, Nat.add_sub_cancel, hchar, hdrop]
  cases text.toList.drop i with
  | nil => simp
  | cons c s =>
      by_cases hc : c = '\n'
      · simp [hc, tagOptions]
      · simp [hc, furtherTags_cons hc]

theorem tagsFrom_of_firstLine {i : Nat} (h : firstLine (text.toList.drop i) = []) :
    tagsFrom text i = furtherTags (text.toList.drop i) := by
  rw [tagsFrom, linesTags_of_firstLine h, ite_self]

theorem tagOf_of_reads {p m : Point} {name rest : List Char} (h : Reads text p name rest m) :
    tagOf text m = tagOfParts name rest := by
  rw [tagOf, h.name, h.value]
  rfl

/-- The search gives the tags of the lines that are left. -/
theorem map_tagOf_matchesBehind {i : Nat} (hi : i ≤ text.size + 1) :
    (tagPattern.matchesBehind text i).map (tagOf text) = tagsFrom text i := by
  induction hn : text.size + 1 - i using Nat.strongRecOn generalizing i with
  | ind n ih =>
      obtain hi | hlast := Nat.lt_or_eq_of_le hi
      · have hi : i ≤ text.size := Nat.le_of_lt_succ hi
        -- Where no match begins, no tag starts on the line, or the line has begun before.
        have hnone (h : tagPattern.run text { position := i } some = none)
            (htags : tagsFrom text i = furtherTags (text.toList.drop i)) :
            (tagPattern.matchesBehind text i).map (tagOf text) = tagsFrom text i := by
          rw [matchesBehind_of_none hi (matchesAt_of_none h), htags, ← tagsFrom_succ]
          exact ih _ (by omega) (by omega) rfl
        cases hstart : Anchor.lineStart.holds text tagOptions i with
        | false => exact hnone (run_tagPattern_of_not hstart) (by simp [tagsFrom, hstart])
        | true =>
            have htags : tagsFrom text i = linesTags (text.toList.drop i) := by
              simp [tagsFrom, hstart]
            cases hparts : tagParts? (text.toList.drop i) with
            | none =>
                refine hnone (run_tagPattern_of_none hi hparts) (htags.trans ?_)
                rw [linesTags_eq, lineTag?_of_tagParts? hparts]
                rfl
            | some parts =>
                obtain ⟨m, hrun, hm⟩ :=
                  run_tagPattern_of_some (p := { position := i }) hi hstart hparts
                have hforward : i < m.position := hm.forward
                have hrest := ih (text.size + 1 - m.position) (by omega)
                  (Nat.le_succ_of_le hm.inside) rfl
                rw [matchesBehind_of_match hforward hm.inside
                  (matchesAt_of_some hrun (Nat.ne_of_gt hforward)), List.map_cons, hrest,
                  tagsFrom_of_firstLine hm.atEnd, htags, linesTags_of_tagParts? hparts,
                  tagOf_of_reads hm, hm.further]
                rfl
      · rw [hlast, matchesBehind_size_succ, tagsFrom_size_succ]
        rfl

theorem tags_eq (doc : String) : tags doc = linesTags doc.toList := by
  rw [tags, findAll_eq]
  exact map_tagOf_matchesBehind (Nat.zero_le _)

end Exposure.Doc
