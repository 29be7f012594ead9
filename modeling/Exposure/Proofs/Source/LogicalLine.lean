import Exposure.Source.Outline
import Mathlib.Data.List.TakeWhile

/-!
How a logical line comes from the text of a source. The line begins where a line of the text does;
what is left of it agrees with the text, but for continuations, up to the first string, opening
bracket, comment or end. A class of the outline is declared at the start of such a line.
-/
namespace Exposure.Source.Outline

/-- The rest of a text from the start of one of its lines. -/
def StartsLine (t s : List Char) : Prop := t = s ∨ '\n' :: t <:+ s

theorem StartsLine.of_rest {t r s : List Char} (h : StartsLine t r) (hr : '\n' :: r <:+ s) :
    StartsLine t s := by
  rcases h with rfl | h
  · exact .inr hr
  · exact .inr (h.trans ((List.suffix_cons _ _).trans hr))

theorem StartsLine.suffix {t s : List Char} (h : StartsLine t s) : t <:+ s := by
  rcases h with rfl | h
  · exact List.suffix_rfl
  · exact (List.suffix_cons _ _).trans h

/-- The characters behind which a line no longer agrees with the text. -/
def opening : List Char := ['"', '\'', '(', '[', '\x7b']

/-- A line as it is left of a text. -/
inductive LeftOf : List Char → List Char → Prop
  | nil : LeftOf [] []
  | lineEnd (s : List Char) : LeftOf [] ('\n' :: s)
  | comment (s : List Char) : LeftOf [] ('#' :: s)
  | opening {c : Char} (hc : c ∈ opening) (t s : List Char) : LeftOf (c :: t) (c :: s)
  | continuation {t s : List Char} (h : LeftOf t s) : LeftOf (' ' :: t) ('\\' :: '\n' :: s)
  | char {c : Char} {t s : List Char} (hc : c ≠ '\n') (h : LeftOf t s) : LeftOf (c :: t) (c :: s)

section PassLine

theorem skipBlock_suffix (quote : Char) (s : List Char) : skipBlock quote s <:+ s := by
  fun_induction skipBlock quote s with
  | case1 => exact List.suffix_rfl
  | case2 c r ih => exact ih.trans ((List.suffix_cons _ _).trans (List.suffix_cons _ _))
  | case3 c r _ h => exact (List.drop_suffix _ _).trans (List.suffix_cons _ _)
  | case4 c r _ h ih => exact ih.trans (List.suffix_cons _ _)

theorem skipString_suffix (quote : Char) (s : List Char) : skipString quote s <:+ s := by
  fun_induction skipString quote s with
  | case1 => exact List.suffix_rfl
  | case2 c r ih => exact ih.trans ((List.suffix_cons _ _).trans (List.suffix_cons _ _))
  | case3 r => exact List.suffix_rfl
  | case4 r => exact List.suffix_cons _ _
  | case5 c r _ _ h ih => exact ih.trans (List.suffix_cons _ _)

theorem passLine_extends (fuel brackets : Nat) (done s : List Char) :
    ∃ text : List Char, (passLine fuel brackets done s).1 = text.reverse ++ done := by
  fun_induction passLine fuel brackets done s with
  | case1 | case2 | case3 => exact ⟨[], rfl⟩
  | case4 _ _ _ _ _ ih | case5 _ _ _ _ ih | case6 _ _ _ _ ih =>
      obtain ⟨text, h⟩ := ih
      exact ⟨' ' :: text, by simp [h]⟩
  | case7 _ _ _ _ ih => exact ih
  | case8 _ _ _ c _ _ _ _ _ _ _ ih | case9 _ _ _ c _ _ _ _ _ _ _ ih =>
      obtain ⟨text, h⟩ := ih
      exact ⟨c :: text, by simp [h]⟩

theorem skipped_suffix (quote : Char) (r : List Char) :
    (if [quote, quote].isPrefixOf r then skipBlock quote (r.drop 2) else skipString quote r) <:+
      r := by
  split
  · exact (skipBlock_suffix _ _).trans (List.drop_suffix _ _)
  · exact skipString_suffix _ _

/-- Behind a line is the start of another one, if anything. -/
theorem passLine_rest {fuel brackets : Nat} {done s : List Char} (hfuel : s.length ≤ fuel) :
    (passLine fuel brackets done s).2 = [] ∨ '\n' :: (passLine fuel brackets done s).2 <:+ s := by
  have hrest {r rest : List Char} (h : rest = [] ∨ '\n' :: rest <:+ r) {s : List Char}
      (hs : r <:+ s) : rest = [] ∨ '\n' :: rest <:+ s :=
    h.imp_right fun h => h.trans hs
  fun_induction passLine fuel brackets done s with
  | case1 => exact .inl (List.length_eq_zero_iff.1 (Nat.le_zero.1 hfuel))
  | case2 => exact .inl rfl
  | case3 => exact .inr List.suffix_rfl
  | case4 _ _ _ _ _ ih => exact hrest (ih (by simp at hfuel; omega)) (List.suffix_cons _ _)
  | case5 _ _ _ r ih =>
      exact hrest (ih (by simp at hfuel; omega))
        ((List.suffix_cons _ _).trans (List.suffix_cons _ _))
  | case6 _ _ _ r ih =>
      exact hrest (ih (by simp at hfuel; omega))
        ((List.suffix_cons _ _).trans ((List.suffix_cons _ _).trans (List.suffix_cons _ _)))
  | case7 _ _ _ r ih =>
      have hsuffix := List.dropWhile_suffix (fun c => decide (c ≠ '\n')) (l := r)
      have hlength := hsuffix.length_le
      exact hrest (ih (by simp at hfuel; omega)) (hsuffix.trans (List.suffix_cons _ _))
  | case8 _ _ _ c r _ _ _ _ _ rest ih =>
      have hsuffix : rest <:+ r := skipped_suffix c r
      have hlength := hsuffix.length_le
      exact hrest (ih (by simp at hfuel; omega)) (hsuffix.trans (List.suffix_cons _ _))
  | case9 _ _ _ c r _ _ _ _ _ _ ih =>
      exact hrest (ih (by simp at hfuel; omega)) (List.suffix_cons _ _)

theorem passLine_comment (fuel : Nat) (done r : List Char) :
    (passLine fuel 0 done (r.dropWhile (· ≠ '\n'))).1 = done := by
  cases fuel with
  | zero => simp [passLine]
  | succ fuel =>
      induction r with
      | nil => simp [passLine]
      | cons c r ih =>
          by_cases hc : c = '\n'
          · simp [hc, passLine]
          · simpa [hc] using ih

/-- A line that is passed over outside of brackets is left of the text at its start. -/
theorem leftOf_passLine {fuel brackets : Nat} {done s : List Char} (hfuel : s.length ≤ fuel)
    (hbrackets : brackets = 0) (hreturn : '\r' ∉ s) :
    ∃ text : List Char,
      (passLine fuel brackets done s).1 = text.reverse ++ done ∧ LeftOf text s := by
  fun_induction passLine fuel brackets done s with
  | case1 _ _ s =>
      obtain rfl := List.length_eq_zero_iff.1 (Nat.le_zero.1 hfuel)
      exact ⟨[], rfl, .nil⟩
  | case2 => exact ⟨[], rfl, .nil⟩
  | case3 => exact ⟨[], rfl, .lineEnd _⟩
  | case4 _ _ _ _ h => exact absurd (by simp [hbrackets]) h
  | case5 _ _ _ r ih =>
      obtain ⟨text, htext, hleft⟩ := ih (by simp at hfuel; omega) hbrackets (by simp_all)
      exact ⟨' ' :: text, by simp [htext], hleft.continuation⟩
  | case6 => simp at hreturn
  | case7 =>
      subst hbrackets
      exact ⟨[], passLine_comment _ _ _, .comment _⟩
  | case8 brackets done fuel c r _ _ _ _ hquote rest =>
      obtain ⟨text, htext⟩ := passLine_extends fuel brackets (c :: done) rest
      have hopening : c ∈ opening := by
        rcases hquote with rfl | rfl <;> decide
      exact ⟨c :: text, by simp [htext], .opening hopening _ _⟩
  | case9 brackets done fuel c r hend _ _ _ _ after ih =>
      by_cases hopening : c ∈ opening
      · obtain ⟨text, htext⟩ := passLine_extends fuel after (c :: done) r
        exact ⟨c :: text, by simp [htext], .opening hopening _ _⟩
      · have hafter : after = 0 := by
          have hbracket : ['(', '[', '\x7b'].contains c = false := by
            simp_all [opening]
          simp only [after, hbracket, hbrackets, Bool.false_eq_true, if_false]
          split <;> rfl
        obtain ⟨text, htext, hleft⟩ := ih (by simp at hfuel; omega) hafter (by simp_all)
        exact ⟨c :: text, by simp [htext], .char hend hleft⟩

end PassLine

theorem isBlank_of_mem_opening {c : Char} (h : c ∈ opening) :
    isBlank c = false ∧ Text.isIdentifierContinue c = false := by
  have hall : (opening.all fun c => !isBlank c && !Text.isIdentifierContinue c) = true := by decide
  simpa using List.all_eq_true.1 hall c h

namespace LeftOf

variable {p w s : List Char}

theorem word (h : LeftOf (p ++ w) s) (hp : ∀ c ∈ p, Text.isIdentifierContinue c = true) :
    ∃ r, s = p ++ r ∧ LeftOf w r := by
  induction p generalizing s with
  | nil => exact ⟨s, rfl, h⟩
  | cons c p ih =>
      obtain ⟨hc, hrest⟩ := List.forall_mem_cons.1 hp
      rw [List.cons_append] at h
      cases h with
      | opening hopening => simp [(isBlank_of_mem_opening hopening).2] at hc
      | continuation => exact absurd hc (by decide)
      | char _ h =>
          obtain ⟨r, rfl, hr⟩ := ih h hrest
          exact ⟨r, rfl, hr⟩

/-- White space that is left is in the text, but for continuations, of which the last one may stand
before it. -/
theorem blanks_after (h : LeftOf (p ++ w) s) (hp : ∀ c ∈ p, isBlank c = true) :
    ∃ joined gap r, s = joined ++ (gap ++ r) ∧ LeftOf w r ∧
      (∀ c ∈ gap, isBlank c = true ∧ c ≠ '\n') ∧ (joined = [] ∨ ['\\', '\n'] <:+ joined) := by
  induction p generalizing s with
  | nil => exact ⟨[], [], s, rfl, h, nofun, .inl rfl⟩
  | cons c p ih =>
      obtain ⟨hc, hrest⟩ := List.forall_mem_cons.1 hp
      rw [List.cons_append] at h
      cases h with
      | opening hopening => simp [(isBlank_of_mem_opening hopening).1] at hc
      | continuation h =>
          obtain ⟨joined, gap, r, rfl, hr, hgap, hjoined⟩ := ih h hrest
          refine ⟨'\\' :: '\n' :: joined, gap, r, rfl, hr, hgap, .inr ?_⟩
          rcases hjoined with rfl | hjoined
          · exact List.suffix_rfl
          · exact hjoined.trans ((List.suffix_cons _ _).trans (List.suffix_cons _ _))
      | char hne h =>
          obtain ⟨joined, gap, r, rfl, hr, hgap, hjoined⟩ := ih h hrest
          rcases hjoined with rfl | hjoined
          · exact ⟨[], c :: gap, r, rfl, hr, List.forall_mem_cons.2 ⟨⟨hc, hne⟩, hgap⟩, .inl rfl⟩
          · exact ⟨c :: joined, gap, r, rfl, hr, hgap, .inr (hjoined.trans (List.suffix_cons _ _))⟩

/-- White space that is left is in the text, up to a continuation. -/
theorem blanks_before (h : LeftOf (p ++ w) s) (hp : ∀ c ∈ p, isBlank c = true) :
    (∃ r, s = p ++ r ∧ LeftOf w r) ∨
      ∃ gap r, s = gap ++ (['\\', '\n'] ++ r) ∧ ∀ c ∈ gap, isBlank c = true := by
  induction p generalizing s with
  | nil => exact .inl ⟨s, rfl, h⟩
  | cons c p ih =>
      obtain ⟨hc, hrest⟩ := List.forall_mem_cons.1 hp
      rw [List.cons_append] at h
      cases h with
      | opening hopening => simp [(isBlank_of_mem_opening hopening).1] at hc
      | continuation h => exact .inr ⟨[], _, rfl, nofun⟩
      | char hne h =>
          rcases ih h hrest with ⟨r, rfl, hr⟩ | ⟨gap, r, rfl, hgap⟩
          · exact .inl ⟨r, rfl, hr⟩
          · exact .inr ⟨c :: gap, r, rfl, List.forall_mem_cons.2 ⟨hc, hgap⟩⟩

theorem wordEnd (h : LeftOf w s)
    (hw : ∀ c, w.head? = some c → Text.isIdentifierContinue c = false) :
    ∀ c, s.head? = some c → Text.isIdentifierContinue c = false := by
  cases h with
  | nil => exact hw
  | lineEnd | comment | continuation =>
      rintro _ ⟨⟩
      decide
  | opening | char => exact hw

end LeftOf

section Lines

theorem indentation_eq (n : Nat) (s : List Char) : ∃ indent : List Char,
    s = indent ++ (indentation n s).2 ∧ ∀ c ∈ indent, isBlank c = true ∧ c ≠ '\n' := by
  fun_induction indentation n s with
  | case1 _ r ih | case2 _ r ih | case3 _ r ih | case4 _ r ih =>
      obtain ⟨indent, hr, hindent⟩ := ih
      exact ⟨_ :: indent, congrArg _ hr, List.forall_mem_cons.2 ⟨by decide, hindent⟩⟩
  | case5 => exact ⟨[], rfl, nofun⟩

theorem indentation_suffix (n : Nat) (s : List Char) : (indentation n s).2 <:+ s := by
  obtain ⟨indent, hs, -⟩ := indentation_eq n s
  exact ⟨indent, hs.symm⟩

/-- The text of the logical line at the start of a text. -/
def lineText (t : List Char) : List Char :=
  (passLine ((indentation 0 t).2.length + 1) 0 [] (indentation 0 t).2).1.reverse.dropWhile isBlank

theorem rest_startsLine {s r text rest : List Char} {indent : Nat}
    (hindent : indentation 0 s = (indent, r))
    (hpass : passLine (r.length + 1) 0 [] r = (text, rest)) :
    rest = [] ∨ '\n' :: rest <:+ s := by
  have hrest := @passLine_rest (r.length + 1) 0 [] r (Nat.le_succ _)
  rw [hpass] at hrest
  have hsuffix := indentation_suffix 0 s
  rw [hindent] at hsuffix
  exact hrest.imp_right fun h => h.trans hsuffix

theorem linesWithin_nil (fuel : Nat) : linesWithin fuel [] = [] := by
  cases fuel <;> rfl

theorem lineText_of_rest {fuel : Nat} {s rest : List Char} {l : Line}
    (hrest : rest = [] ∨ '\n' :: rest <:+ s) (h : l ∈ linesWithin fuel rest)
    (htext : ∃ t, StartsLine t rest ∧ l.text = lineText t) :
    ∃ t, StartsLine t s ∧ l.text = lineText t := by
  rcases hrest with rfl | hrest
  · rw [linesWithin_nil] at h
    cases h
  · obtain ⟨t, ht, htext⟩ := htext
    exact ⟨t, ht.of_rest hrest, htext⟩

/-- Logical lines begin where lines of the text do. -/
theorem mem_linesWithin {fuel : Nat} {s : List Char} {l : Line} (h : l ∈ linesWithin fuel s) :
    ∃ t, StartsLine t s ∧ l.text = lineText t := by
  fun_induction linesWithin fuel s with
  | case1 => cases h
  | case2 => cases h
  | case3 fuel s hne indent r hindent text rest hpass hblank ih =>
      exact lineText_of_rest (rest_startsLine hindent hpass) h (ih h)
  | case4 fuel s hne indent r hindent text rest hpass hblank ih =>
      rcases List.mem_cons.1 h with rfl | h
      · exact ⟨s, .inl rfl, by simp only [lineText, hindent, hpass]⟩
      · exact lineText_of_rest (rest_startsLine hindent hpass) h (ih h)

theorem mem_topLevel {indents : List Nat} {opened : Bool} {ls : List Line} {l : Line}
    (h : l ∈ topLevel indents opened ls) : l ∈ ls := by
  fun_induction topLevel indents opened ls with
  | case1 => cases h
  | case2 indents opened k ls _ _ _ ih => exact List.mem_cons.2 ((List.mem_cons.1 h).imp_right ih)
  | case3 indents opened k ls _ _ _ ih => exact List.mem_cons_of_mem _ (ih h)

/-- A logical line is left of the text behind the indentation, once its own white space at the start
is put back. -/
theorem leftOf_lineText {t : List Char} (hreturn : '\r' ∉ t) : ∃ indent lead r : List Char,
    t = indent ++ r ∧ (∀ c ∈ indent, isBlank c = true ∧ c ≠ '\n') ∧
      (∀ c ∈ lead, isBlank c = true) ∧ LeftOf (lead ++ lineText t) r := by
  obtain ⟨indent, ht, hindent⟩ := indentation_eq 0 t
  obtain ⟨text, htext, hleft⟩ := @leftOf_passLine _ _ [] _ (Nat.le_succ _) rfl
    (fun h => hreturn ((indentation_suffix 0 t).subset h))
  rw [List.append_nil] at htext
  refine ⟨indent, text.takeWhile isBlank, _, ht, hindent, fun c hc => List.mem_takeWhile_imp hc, ?_⟩
  rwa [lineText, htext, List.reverse_reverse, List.takeWhile_append_dropWhile]

theorem not_of_head?_dropWhile {p : Char → Bool} {s : List Char} {c : Char}
    (h : (s.dropWhile p).head? = some c) : p c = false := by
  have hnot := List.head?_dropWhile_not p s
  rwa [h] at hnot

theorem takeWhile_ne_nil {p : Char → Bool} {s : List Char} (h : s.head?.any p = true) :
    s.takeWhile p ≠ [] := by
  cases s with
  | nil => simp at h
  | cons c s => simp_all

theorem className?_eq_some {l : Line} {n : String} (h : l.className? = some n) :
    ∃ gap name rest, l.text = "class".toList ++ (gap ++ (name ++ rest)) ∧ n = String.ofList name ∧
      gap ≠ [] ∧ (∀ c ∈ gap, isBlank c = true) ∧
      (∀ c ∈ name, Text.isIdentifierContinue c = true) ∧
      ∀ c, rest.head? = some c → Text.isIdentifierContinue c = false := by
  unfold Line.className? at h
  dsimp only at h
  split at h
  · rename_i hword
    obtain ⟨r, hr⟩ := List.isPrefixOf_iff_prefix.1 hword
    rw [← hr, List.drop_left] at h
    split at h
    · split at h
      · rename_i hstart
        cases h
        rw [Bool.and_eq_true] at hstart
        refine ⟨r.takeWhile isBlank, _, (r.dropWhile isBlank).dropWhile Text.isIdentifierContinue,
          ?_, rfl, takeWhile_ne_nil hstart.1,
          fun c hc => List.mem_takeWhile_imp hc, fun c hc => List.mem_takeWhile_imp hc,
          fun c hc => not_of_head?_dropWhile hc⟩
        rw [List.takeWhile_append_dropWhile, List.takeWhile_append_dropWhile, hr]
      · cases h
    · cases h
  · cases h

end Lines

/-- The first text stands before the second one with nothing but white space between them. -/
def Adjacent (a b s : List Char) : Prop :=
  ∃ gap, (∀ c ∈ gap, isBlank c = true) ∧ a ++ (gap ++ b) <:+: s

/-- A text whose white space is of the plain kind, in which letters and characters of identifiers
are the same, and in which no continuation of a line stands beside the word that begins a class. -/
structure Plain (s : List Char) : Prop where
  blanks : ∀ c ∈ s, isBlank c = true → c = ' ' ∨ c = '\t' ∨ c = '\n'
  words : ∀ c ∈ s, Text.isWord c = Text.isIdentifierContinue c
  before : ¬Adjacent ['\\', '\n'] "class".toList s
  behind : ¬Adjacent "class".toList ['\\', '\n'] s

/-- A text that starts with the declaration of a class as the search for mentions knows it, and what
stands behind the name. -/
inductive Statement (name rest : List Char) : List Char → Prop
  | intro {indent gap : List Char} (hindent : ∀ c ∈ indent, c = ' ' ∨ c = '\t')
      (hgap : gap ≠ []) (hblank : ∀ c ∈ gap, Text.isBlank c = true)
      (hname : ∀ c ∈ name, Text.isWord c = true)
      (hrest : ∀ c, rest.head? = some c → Text.isWord c = false) :
      Statement name rest (indent ++ ("class".toList ++ (gap ++ (name ++ rest))))

/-- A logical line of a plain text that starts like a declaration does so in the text. -/
theorem statement_of_lineText {s t gap name rest : List Char} (hplain : Plain s) (ht : t <:+ s)
    (hline : lineText t = "class".toList ++ (gap ++ (name ++ rest))) (hgap : gap ≠ [])
    (hblank : ∀ c ∈ gap, isBlank c = true)
    (hname : ∀ c ∈ name, Text.isIdentifierContinue c = true)
    (hrest : ∀ c, rest.head? = some c → Text.isIdentifierContinue c = false) :
    ∃ behind, Statement name behind t := by
  have hspace {c : Char} (hc : c ∈ t) (hb : isBlank c = true ∧ c ≠ '\n') : c = ' ' ∨ c = '\t' := by
    simpa [hb.2] using hplain.blanks c (ht.subset hc) hb.1
  have hreturn : '\r' ∉ t := fun h => by simpa using hspace h (by decide)
  obtain ⟨indent, lead, r, hr, hindent, hlead, hleft⟩ := leftOf_lineText hreturn
  rw [hline] at hleft
  obtain ⟨joined, lead', r, rfl, hatWord, hlead', hjoined⟩ := hleft.blanks_after hlead
  obtain ⟨r, rfl, hatGap⟩ := hatWord.word (List.all_eq_true.1 (by decide))
  -- A continuation cannot end before the word, nor one begin behind it.
  have hnone : joined = [] := by
    refine hjoined.resolve_right ?_
    rintro ⟨before, rfl⟩
    refine hplain.before ⟨lead', fun c hc => (hlead' c hc).1, .trans ?_ ht.isInfix⟩
    exact ⟨indent ++ before, r, by simp [hr]⟩
  subst hnone
  rcases hatGap.blanks_before hblank with ⟨r, rfl, hatName⟩ | ⟨gap', r, rfl, hgap'⟩
  · obtain ⟨r, rfl, hatRest⟩ := hatName.word hname
    rw [List.nil_append, ← List.append_assoc] at hr
    have hspaces : ∀ c ∈ indent ++ lead', c = ' ' ∨ c = '\t' := by
      intro c hc
      refine hspace (by rw [hr]; exact List.mem_append_left _ hc) ?_
      exact (List.mem_append.1 hc).elim (hindent c) (hlead' c)
    have hword {c : Char} (hc : c ∈ name ++ r) : Text.isWord c = Text.isIdentifierContinue c :=
      hplain.words c (ht.subset (by rw [hr]; simp only [List.mem_append] at hc ⊢; simp [hc]))
    have hgapBlank : ∀ c ∈ gap, Text.isBlank c = true := by
      intro c hc
      rcases hplain.blanks c (ht.subset (by rw [hr]; simp [hc])) (hblank c hc)
        with rfl | rfl | rfl <;> decide
    rw [hr]
    refine ⟨r, .intro hspaces hgap hgapBlank (fun c hc => ?_) fun c hc => ?_⟩
    · rw [hword (List.mem_append_left _ hc), hname c hc]
    · rw [hword (List.mem_append_right _ (List.mem_of_mem_head? hc)), hatRest.wordEnd hrest c hc]
  · refine absurd ⟨gap', hgap', .trans ?_ ht.isInfix⟩ hplain.behind
    exact ⟨indent ++ lead', r, by simp [hr]⟩

/-- A class of the outline of a plain text is declared where a line of the text starts. -/
theorem exists_statement {source name : String} (hplain : Plain source.toList)
    (h : name ∈ classNames source) :
    ∃ t behind, StartsLine t source.toList ∧ Statement name.toList behind t := by
  obtain ⟨l, hl, hname⟩ := List.mem_filterMap.1 h
  obtain ⟨t, ht, htext⟩ := mem_linesWithin (mem_topLevel hl)
  obtain ⟨gap, word, rest, hline, rfl, hgap, hblank, hword, hrest⟩ := className?_eq_some hname
  obtain ⟨behind, hstatement⟩ :=
    statement_of_lineText hplain ht.suffix (htext ▸ hline) hgap hblank hword hrest
  exact ⟨t, behind, ht, String.toList_ofList ▸ hstatement⟩

end Exposure.Source.Outline
