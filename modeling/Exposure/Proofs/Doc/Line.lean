import Exposure.Doc.Tag
import Exposure.Proofs.Text.Run
import Exposure.Proofs.Text.Split

/-!
Reading tags line by line. A line gives a tag if it starts with `@` and a name behind blanks and at
most one star. Blanks in front of such a start do not change what is read, line breaks among them.
-/
namespace Exposure.Doc

open Text

/-- The text behind leading blanks and a star. -/
def tagStart (s : List Char) : List Char :=
  match s.dropWhile isBlank with
  | '*' :: r => r.dropWhile isBlank
  | r => r

theorem tagStart_of_star {s r : List Char} (h : s.dropWhile isBlank = '*' :: r) :
    tagStart s = r.dropWhile isBlank := by simp [tagStart, h]

theorem tagStart_of_ne {s : List Char} (h : ∀ r, s.dropWhile isBlank ≠ '*' :: r) :
    tagStart s = s.dropWhile isBlank := by
  unfold tagStart
  split
  · rename_i r hr
    exact absurd hr (h r)
  · rfl

def startsName (c : Char) : Bool := c.isAlpha || c = '_'

def continuesName (c : Char) : Bool := isWord c || c = '-'

def isGap (c : Char) : Bool := c = ' ' || c = '\t'

/-- The name at the start of a text and the rest. -/
def tagName? : List Char → Option (List Char × List Char)
  | c :: r =>
    if startsName c then some (c :: r.takeWhile continuesName, r.dropWhile continuesName) else none
  | [] => none

/-- A text without the blanks at its end. -/
def trimEnd (s : List Char) : List Char := (s.reverse.dropWhile isBlank).reverse

theorem trimEnd_append (s : List Char) :
    ∃ u, trimEnd s ++ u = s ∧ ∀ c ∈ u, isBlank c = true := by
  refine ⟨(s.reverse.takeWhile isBlank).reverse, ?_, fun c hc => ?_⟩
  · rw [trimEnd, ← List.reverse_append, List.takeWhile_append_dropWhile, List.reverse_reverse]
  · exact List.all_eq_true.1 List.all_takeWhile c (List.mem_reverse.1 hc)

theorem take_length_trimEnd (s : List Char) : s.take (trimEnd s).length = trimEnd s := by
  obtain ⟨u, hu, -⟩ := trimEnd_append s
  have htake := @List.take_left _ (trimEnd s) u
  rwa [hu] at htake

theorem drop_length_trimEnd (s : List Char) :
    ∀ c ∈ s.drop (trimEnd s).length, isBlank c = true := by
  obtain ⟨u, hu, hblank⟩ := trimEnd_append s
  have hdrop := @List.drop_left _ (trimEnd s) u
  rw [hu] at hdrop
  rwa [hdrop]

theorem length_trimEnd_le (s : List Char) : (trimEnd s).length ≤ s.length := by
  rw [← take_length_trimEnd, List.length_take]
  exact Nat.min_le_right _ _

theorem take_length_trimEnd_firstLine (s : List Char) :
    s.take (trimEnd (firstLine s)).length = trimEnd (firstLine s) := by
  have htake := take_length_trimEnd (firstLine s)
  rwa [← List.take_append_of_le_length (length_trimEnd_le _), firstLine_append_dropWhile] at htake

theorem newline_notMem_trimEnd (s : List Char) : '\n' ∉ trimEnd (firstLine s) := fun h => by
  rw [← take_length_trimEnd] at h
  exact newline_notMem_firstLine s (List.mem_of_mem_take h)

/-- What is left ends with a character that is no blank. -/
theorem exists_not_blank_of_lt {s : List Char} {n : Nat} (hn : n < (trimEnd s).length) :
    ∃ c ∈ s.drop n, isBlank c = false := by
  obtain ⟨u, hu, -⟩ := trimEnd_append s
  rw [← hu, List.drop_append_of_le_length (Nat.le_of_lt hn)]
  have hlast := List.head?_dropWhile_not isBlank s.reverse
  unfold trimEnd at hn ⊢
  cases hs : s.reverse.dropWhile isBlank with
  | nil => simp [hs] at hn
  | cons c r =>
      rw [hs, List.length_reverse, List.length_cons] at hn
      rw [hs] at hlast
      refine ⟨c, List.mem_append_left _ ?_, hlast⟩
      rw [List.reverse_cons, List.drop_append_of_le_length (by simp; omega)]
      simp

/-- The value at the start of what follows a name. -/
def tagValue (rest : List Char) : List Char := trimEnd (firstLine (rest.dropWhile isGap))

/-- The name of the tag that a text starts with and what follows the name. -/
def tagParts? (s : List Char) : Option (List Char × List Char) :=
  match tagStart s with
  | '@' :: r => tagName? r
  | _ => none

def tagOfParts (name rest : List Char) : Tag :=
  (String.ofList (lower name), String.ofList (unquote (tagValue rest)))

/-- The tag of a line, if it holds one. -/
def lineTag? (line : List Char) : Option Tag :=
  (tagParts? line).map fun (name, rest) => tagOfParts name rest

/-- The tags of a text, line by line. -/
def linesTags (s : List Char) : List Tag := (splitAt '\n' s).filterMap lineTag?

/-- The tags of the lines behind the first one. -/
def furtherTags (s : List Char) : List Tag := (furtherLines s).filterMap lineTag?

theorem linesTags_eq (s : List Char) :
    linesTags s = (lineTag? (firstLine s)).toList ++ furtherTags s := by
  rw [linesTags, splitAt_newline, List.filterMap_cons]
  cases lineTag? (firstLine s) <;> rfl

theorem linesTags_append (a b : List Char) :
    linesTags (a ++ '\n' :: b) = linesTags a ++ linesTags b := by
  rw [linesTags, splitAt_append_cons, List.filterMap_append]
  rfl

@[simp] theorem linesTags_newline (s : List Char) : linesTags ('\n' :: s) = linesTags s :=
  linesTags_append [] s

@[simp] theorem furtherTags_newline (s : List Char) : furtherTags ('\n' :: s) = linesTags s := rfl

theorem furtherTags_cons {c : Char} (hc : c ≠ '\n') (s : List Char) :
    furtherTags (c :: s) = furtherTags s := by rw [furtherTags, furtherLines_cons hc, furtherTags]

theorem furtherTags_append {u : List Char} (hu : '\n' ∉ u) (s : List Char) :
    furtherTags (u ++ s) = furtherTags s := by rw [furtherTags, furtherLines_append hu, furtherTags]

/-- What a front part adds to the first line is all that it changes. -/
theorem linesTags_append_congr {u v : List Char} (hu : '\n' ∉ u) (hv : '\n' ∉ v)
    (h : ∀ l, lineTag? (u ++ l) = lineTag? (v ++ l)) (s : List Char) :
    linesTags (u ++ s) = linesTags (v ++ s) := by
  rw [linesTags_eq, linesTags_eq, firstLine_append hu, firstLine_append hv, h,
    furtherTags_append hu, furtherTags_append hv]

theorem lineTag?_congr {l l' : List Char} (h : tagStart l = tagStart l') :
    lineTag? l = lineTag? l' := by rw [lineTag?, tagParts?, h, lineTag?, tagParts?]

theorem linesTags_cons_blank {c : Char} (hc : isBlank c = true) (s : List Char) :
    linesTags (c :: s) = linesTags s := by
  by_cases hn : c = '\n'
  · rw [hn, linesTags_newline]
  · refine linesTags_append_congr (u := [c]) (v := []) ?_ ?_ (fun l => lineTag?_congr ?_) s
    all_goals simp [tagStart, hc, Ne.symm hn]

theorem linesTags_dropWhile (s : List Char) : linesTags (s.dropWhile isBlank) = linesTags s := by
  induction s with
  | nil => rfl
  | cons c s ih =>
      cases hc : isBlank c with
      | true => rw [List.dropWhile_cons_of_pos hc, ih, linesTags_cons_blank hc]
      | false => rw [List.dropWhile_cons_of_neg (by simp [hc])]

/-- A star at the start of a line does not matter if a tag follows, on this line or behind blank
ones. -/
theorem linesTags_star {s q : List Char} (h : s.dropWhile isBlank = '@' :: q) :
    linesTags ('*' :: s) = linesTags ('@' :: q) := by
  induction s with
  | nil => cases h
  | cons c s ih =>
      cases hc : isBlank c with
      | true =>
          rw [List.dropWhile_cons_of_pos hc] at h
          by_cases hn : c = '\n'
          · rw [hn, ← h, linesTags_dropWhile]
            exact linesTags_append ['*'] s
          · rw [← ih h]
            refine linesTags_append_congr (u := ['*', c]) (v := ['*']) ?_ ?_
              (fun l => lineTag?_congr ?_) s
            · simp [Ne.symm hn]
            · simp
            · have hstar : isBlank '*' = false := by decide
              simp [tagStart, hc, hstar]
      | false =>
          rw [List.dropWhile_cons_of_neg (by simp [hc])] at h
          cases h
          exact linesTags_append_congr (u := ['*', '@']) (v := ['@']) (by simp) (by simp)
            (fun l => lineTag?_congr rfl) q

theorem linesTags_of_tagStart {s q : List Char} (h : tagStart s = '@' :: q) :
    linesTags s = linesTags ('@' :: q) := by
  rw [← linesTags_dropWhile s]
  unfold tagStart at h
  split at h
  · rename_i r hr
    rw [hr, linesTags_star h]
  · rw [h]

theorem not_newline_of_continuesName (c : Char) (h : continuesName c = true) :
    decide (c ≠ '\n') = true := by
  refine decide_eq_true fun hc => ?_
  rw [hc] at h
  revert h
  decide +kernel

theorem not_newline_of_isGap (c : Char) (h : isGap c = true) : decide (c ≠ '\n') = true := by
  refine decide_eq_true fun hc => ?_
  rw [hc] at h
  revert h
  decide

theorem tagName?_firstLine (s : List Char) :
    tagName? (firstLine s) = (tagName? s).map fun (name, rest) => (name, firstLine rest) := by
  cases s with
  | nil => rfl
  | cons c s =>
      by_cases hn : c = '\n'
      · simp [hn, tagName?, startsName]
      · rw [firstLine_cons hn, tagName?, tagName?]
        split
        · rw [firstLine, takeWhile_takeWhile_of_imp not_newline_of_continuesName,
            dropWhile_takeWhile_of_imp not_newline_of_continuesName]
          rfl
        · rfl

theorem tagValue_firstLine (rest : List Char) : tagValue (firstLine rest) = tagValue rest := by
  have hgap : (firstLine rest).dropWhile isGap = firstLine (rest.dropWhile isGap) :=
    dropWhile_takeWhile_of_imp not_newline_of_isGap rest
  rw [tagValue, tagValue, hgap, firstLine_of_notMem (newline_notMem_firstLine _)]

theorem newline_notMem_takeWhile {p : Char → Bool}
    (hp : ∀ c, p c = true → decide (c ≠ '\n') = true) (s : List Char) :
    '\n' ∉ s.takeWhile p := fun h => by
  simpa using hp _ (List.all_eq_true.1 List.all_takeWhile _ h)

theorem furtherTags_of_tagName? {s name rest : List Char} (h : tagName? s = some (name, rest)) :
    furtherTags s = furtherTags rest := by
  cases s with
  | nil => cases h
  | cons c s =>
      rw [tagName?] at h
      split at h
      · rename_i hc
        cases h
        have hn : c ≠ '\n' := fun hn => by simp [hn, startsName] at hc
        have hname := newline_notMem_takeWhile not_newline_of_continuesName s
        rw [furtherTags_cons hn, ← furtherTags_append hname (s.dropWhile continuesName),
          List.takeWhile_append_dropWhile]
      · cases h

/-- A text that starts with a tag has this tag and those of the lines behind it. -/
theorem linesTags_of_tagParts? {s name rest : List Char} (h : tagParts? s = some (name, rest)) :
    linesTags s = tagOfParts name rest :: furtherTags rest := by
  unfold tagParts? at h
  split at h
  · rename_i q hq
    have hline : lineTag? ('@' :: firstLine q) = some (tagOfParts name rest) := by
      rw [lineTag?]
      change (tagName? (firstLine q)).map _ = _
      rw [tagName?_firstLine, h, tagOfParts, ← tagValue_firstLine]
      rfl
    rw [linesTags_of_tagStart hq, linesTags_eq, firstLine_cons (by decide), hline,
      furtherTags_cons (by decide), furtherTags_of_tagName? h]
    rfl
  · cases h

theorem tagStart_firstLine {s r : List Char} {c : Char} (h : tagStart (firstLine s) = c :: r) :
    ∃ r', tagStart s = c :: r' ∧ r = firstLine r' := by
  unfold tagStart at h
  split at h
  · rename_i t ht
    obtain ⟨t', ht', rfl⟩ := dropWhile_of_dropWhile_takeWhile ht
    obtain ⟨r', hr', rfl⟩ := dropWhile_of_dropWhile_takeWhile h
    exact ⟨r', by simp [tagStart, ht', hr'], rfl⟩
  · rename_i hstar
    obtain ⟨r', hr', rfl⟩ := dropWhile_of_dropWhile_takeWhile h
    refine ⟨r', ?_, rfl⟩
    unfold tagStart
    split
    · rename_i t ht
      rw [hr'] at ht
      cases ht
      exact absurd h (hstar _)
    · exact hr'

/-- Nor does the first line of a text start with a tag if the text does not. -/
theorem lineTag?_of_tagParts? {s : List Char} (h : tagParts? s = none) :
    lineTag? (firstLine s) = none := by
  rw [lineTag?, Option.map_eq_none_iff, tagParts?]
  split
  · rename_i r hr
    obtain ⟨r', hr', rfl⟩ := tagStart_firstLine hr
    rw [tagParts?, hr'] at h
    rw [tagName?_firstLine, show tagName? r' = none from h]
    rfl
  · rfl

theorem linesTags_of_firstLine {s : List Char} (h : firstLine s = []) :
    linesTags s = furtherTags s := by rw [linesTags_eq, h]; rfl

theorem linesTags_blanks {u : List Char} (hu : ∀ c ∈ u, isBlank c = true) (s : List Char) :
    linesTags (u ++ s) = linesTags s := by
  rw [← linesTags_dropWhile, List.dropWhile_append_of_pos hu, linesTags_dropWhile]

/-- Blanks up to the end of a line, this or a further one, hold no tag. -/
theorem furtherTags_blanks {u s : List Char} (hu : ∀ c ∈ u, isBlank c = true)
    (hs : firstLine s = []) : furtherTags (u ++ s) = furtherTags s := by
  induction u with
  | nil => rfl
  | cons c u ih =>
      have hrest : ∀ d ∈ u, isBlank d = true := fun d hd => hu d (List.mem_cons_of_mem c hd)
      by_cases hn : c = '\n'
      · rw [hn, List.cons_append, furtherTags_newline, linesTags_blanks hrest,
          linesTags_of_firstLine hs]
      · rw [List.cons_append, furtherTags_cons hn, ih hrest]

end Exposure.Doc
