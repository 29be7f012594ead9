import Exposure.Proofs.Source.LogicalLine
import Exposure.Proofs.Text.Run

/-!
The search of a text for mentions of a class, which is made before a parser lists the classes of the
text. It goes by the starts of lines alone. What it finds decides only whether there is an answer,
not which; and it misses no class that is declared where a line starts, if the name begins with an
ASCII letter.
-/
namespace Exposure.Source.Outline

open Text (takeWhile_of_stop takeWhile_append_stop dropWhile_append_stop)

theorem isWord_eq_false_of_isBlank {c : Char} (h : Text.isBlank c = true) :
    Text.isWord c = false := by
  have hall : ∀ n ∈ Text.blankRanges.flatMap fun r => List.range' r.1 (r.2 + 1 - r.1),
      Text.isWord (Char.ofNat n) = false := by decide +kernel
  obtain ⟨r, hr, hrange⟩ := List.any_eq_true.1 h
  rw [Bool.and_eq_true, decide_eq_true_eq, decide_eq_true_eq] at hrange
  rw [← Char.ofNat_toNat c]
  exact hall _ (List.mem_flatMap.2 ⟨r, hr, List.mem_range'_1.2 (by omega)⟩)

theorem isBlank_eq_false_of_isWord {c : Char} (h : Text.isWord c = true) :
    Text.isBlank c = false :=
  Bool.eq_false_iff.2 fun hb => by simp [isWord_eq_false_of_isBlank hb] at h

theorem cons_suffix_of_notMem {c : Char} {t xs ys : List Char} (h : c :: t <:+ xs ++ ys)
    (hc : c ∉ xs) : c :: t <:+ ys := by
  obtain ⟨before, h⟩ := h
  rcases List.append_eq_append_iff.1 h with ⟨as, rfl, has⟩ | ⟨bs, rfl, hys⟩
  · cases as with
    | nil => exact ⟨[], has⟩
    | cons a as =>
        cases has
        simp at hc
  · exact ⟨bs, hys.symm⟩

/-- The name begins with an ASCII letter or the underscore. -/
def startsPlainly (name : List Char) : Bool := name.head?.any fun c => c = '_' || c.isAlpha

theorem isWord_of_plain {c : Char} (h : (c = '_' || c.isAlpha) = true) : Text.isWord c = true := by
  rw [Bool.or_eq_true, decide_eq_true_eq] at h
  rcases h with rfl | h
  · decide
  · simp [Text.isWord, Text.isAlphanumeric, Char.isAlphanum, h]

theorem startsPlainly_iff {name : List Char} : startsPlainly name = true ↔
    ∃ c rest, name = c :: rest ∧ (c = '_' || c.isAlpha) = true := by
  cases name <;> simp [startsPlainly]

/-- What is mentioned in the lines behind the one at the start. -/
def mentionsBehind (fuel : Nat) (r : List Char) : List String :=
  match r.dropWhile (· ≠ '\n') with
  | _ :: rest => mentions fuel rest
  | [] => []

theorem mentions_of_statement {name rest s : List Char} (h : Statement name rest s)
    (hname : startsPlainly name = true) (fuel : Nat) :
    mentions (fuel + 1) s = String.ofList name :: mentionsBehind fuel rest := by
  cases h with
  | @intro indent gap hindent hgap hblank hword hrest =>
      obtain ⟨c, name, rfl, hc⟩ := startsPlainly_iff.1 hname
      have hline : (indent ++ ("class".toList ++ (gap ++ (c :: name ++ rest)))).dropWhile
          (fun c => c = ' ' || c = '\t') = "class".toList ++ (gap ++ (c :: name ++ rest)) :=
        dropWhile_append_stop (by simpa using hindent) (by simp)
      have hbehind : (gap ++ (c :: name ++ rest)).dropWhile Text.isBlank = c :: name ++ rest := by
        refine dropWhile_append_stop hblank fun d hd => ?_
        cases hd
        exact isBlank_eq_false_of_isWord (isWord_of_plain hc)
      have hfirst : (gap ++ (c :: name ++ rest)).head?.any Text.isBlank = true := by
        cases gap with
        | nil => exact absurd rfl hgap
        | cons d gap => exact hblank d List.mem_cons_self
      have hprefix : "class".toList.isPrefixOf ("class".toList ++ (gap ++ (c :: name ++ rest))) :=
        List.isPrefixOf_iff_prefix.2 (List.prefix_append _ _)
      rw [mentions]
      simp only [hline, hprefix, List.drop_left, hbehind, hfirst, if_true,
        takeWhile_append_stop hword hrest, dropWhile_append_stop hword hrest]
      simp only [List.cons_append, hc, Bool.and_self, if_true]
      rfl

/-- The search takes the line at the start for a declaration, or goes on behind it. -/
theorem mentions_succ (fuel : Nat) (s : List Char) :
    mentions (fuel + 1) s = mentionsBehind fuel s ∨
      ∃ name rest, Statement name rest s ∧ startsPlainly name = true ∧
        mentions (fuel + 1) s = String.ofList name :: mentionsBehind fuel rest := by
  rw [mentions]
  dsimp only
  split
  · rename_i hword
    obtain ⟨behind, hbehind⟩ := List.isPrefixOf_iff_prefix.1 hword
    rw [← hbehind, List.drop_left]
    split
    · rename_i c r hname
      split
      · rename_i hstart
        rw [Bool.and_eq_true] at hstart
        have hstatement : Statement ((behind.dropWhile Text.isBlank).takeWhile Text.isWord)
            ((behind.dropWhile Text.isBlank).dropWhile Text.isWord)
            (s.takeWhile (fun c => c = ' ' || c = '\t') ++ ("class".toList ++
              (behind.takeWhile Text.isBlank ++
                ((behind.dropWhile Text.isBlank).takeWhile Text.isWord ++
                  (behind.dropWhile Text.isBlank).dropWhile Text.isWord)))) := by
          refine .intro (fun c hc => ?_) (takeWhile_ne_nil hstart.1)
            (fun c hc => List.mem_takeWhile_imp hc) (fun c hc => List.mem_takeWhile_imp hc)
            fun c hc => not_of_head?_dropWhile hc
          simpa using List.mem_takeWhile_imp hc
        rw [List.takeWhile_append_dropWhile, List.takeWhile_append_dropWhile, hbehind,
          List.takeWhile_append_dropWhile] at hstatement
        refine .inr ⟨_, _, hstatement, ?_, rfl⟩
        rw [hname, List.takeWhile_cons_of_pos (isWord_of_plain hstart.2)]
        exact hstart.2
      · exact .inl rfl
    · exact .inl rfl
  · exact .inl rfl

theorem exists_mentionsBehind {fuel : Nat} {t r : List Char} (h : '\n' :: t <:+ r) :
    ∃ rest, mentionsBehind fuel r = mentions fuel rest ∧ StartsLine t rest ∧
      rest.length < r.length := by
  induction r with
  | nil => cases List.suffix_nil.1 h
  | cons c r ih =>
      by_cases hc : c = '\n'
      · subst hc
        refine ⟨r, by simp [mentionsBehind], ?_, Nat.lt_succ_self _⟩
        exact (List.suffix_cons_iff.1 h).imp_left fun h => (List.cons.inj h).2
      · have hbehind : mentionsBehind fuel (c :: r) = mentionsBehind fuel r := by
          simp [mentionsBehind, hc]
        obtain ⟨rest, hrest, ht, hlength⟩ :=
          ih ((List.suffix_cons_iff.1 h).resolve_left fun h => hc (List.cons.inj h).1.symm)
        exact ⟨rest, hbehind.trans hrest, ht, Nat.lt_succ_of_lt hlength⟩

theorem Statement.suffix {name rest s : List Char} (h : Statement name rest s) : rest <:+ s := by
  cases h with
  | @intro indent gap =>
      refine .trans ?_ (List.suffix_append _ _)
      refine .trans ?_ (List.suffix_append _ _)
      exact .trans (List.suffix_append _ _) (List.suffix_append _ _)

/-- A word at which a declaration starts, but for white space, is the one that begins it. -/
theorem word_of_statement {name rest t gap word more : List Char} {c : Char}
    (ht : Statement name rest t) (heq : t = gap ++ (c :: word ++ more))
    (hgap : ∀ c ∈ gap, Text.isBlank c = true) (hc : (c = '_' || c.isAlpha) = true)
    (hword : ∀ d ∈ c :: word, Text.isWord d = true)
    (hmore : ∀ d, more.head? = some d → Text.isWord d = false) : c :: word = "class".toList := by
  cases ht with
  | @intro indent gap' hindent hgap' hblank _ _ =>
      have hindent' : ∀ d ∈ indent, Text.isBlank d = true := fun d hd => by
        rcases hindent d hd with rfl | rfl <;> decide
      have hfirst : ∀ d, (c :: word ++ more).head? = some d → Text.isBlank d = false := by
        rintro _ ⟨⟩
        exact isBlank_eq_false_of_isWord (isWord_of_plain hc)
      have hbehind : ∀ d, (gap' ++ (name ++ rest)).head? = some d → Text.isWord d = false := by
        cases gap' with
        | nil => exact absurd rfl hgap'
        | cons b gap' =>
            rintro _ ⟨⟩
            exact isWord_eq_false_of_isBlank (hblank b List.mem_cons_self)
      have hstart : c :: word ++ more = "class".toList ++ (gap' ++ (name ++ rest)) := by
        rw [← dropWhile_append_stop hgap hfirst, ← heq]
        exact dropWhile_append_stop hindent' (by rintro _ ⟨⟩; decide)
      calc c :: word = (c :: word ++ more).takeWhile Text.isWord :=
            (takeWhile_append_stop hword hmore).symm
        _ = ("class".toList ++ (gap' ++ (name ++ rest))).takeWhile Text.isWord := by rw [hstart]
        _ = "class".toList :=
            takeWhile_append_stop (List.all_eq_true.1 (by decide)) hbehind

/-- A declaration in a later line is not passed over with the one at the start, unless this takes
the word of the other for its name. -/
theorem statement_overlap {name rest name' rest' s t : List Char} (hs : Statement name rest s)
    (hname : startsPlainly name = true) (ht : Statement name' rest' t) (hline : '\n' :: t <:+ s) :
    '\n' :: t <:+ rest ∨ name = "class".toList := by
  obtain ⟨c, more, rfl, hc⟩ := startsPlainly_iff.1 hname
  cases hs with
  | @intro indent gap hindent hgap hblank hword hrest =>
      have hbehind := cons_suffix_of_notMem hline fun h => by simpa using hindent _ h
      obtain ⟨before, heq⟩ := cons_suffix_of_notMem hbehind (by decide)
      -- The other line starts within the white space before the name, or not before the name.
      rcases List.append_eq_append_iff.1 heq with ⟨between, rfl, htail⟩ | ⟨part, rfl, hpart⟩
      · cases between with
        | nil =>
            cases htail
            exact absurd hc (by decide)
        | cons b between =>
            cases htail
            have hbetween : ∀ d ∈ between, Text.isBlank d = true :=
              fun d hd => hblank d (by simp [hd])
            exact .inr (word_of_statement ht rfl hbetween hc hword hrest)
      · exact .inl (cons_suffix_of_notMem ⟨part, hpart.symm⟩
          fun h => absurd (hword _ h) (by decide))

/-- The search finds the name in every declaration at the start of a line, if it takes no other line
for the declaration of a class by the name of the word itself. -/
theorem mem_mentions {name rest t : List Char} (ht : Statement name rest t)
    (hname : startsPlainly name = true) {fuel : Nat} {s : List Char} (hfuel : s.length < fuel)
    (hline : StartsLine t s) (hclass : "class" ∉ mentions fuel s) :
    String.ofList name ∈ mentions fuel s := by
  -- Behind the line at the start there is less text, which still has the declaration.
  have hbehind {fuel : Nat} {s r : List Char} (ih : ∀ {s : List Char}, s.length < fuel →
      StartsLine t s → "class" ∉ mentions fuel s → String.ofList name ∈ mentions fuel s)
      (hfuel : s.length < fuel + 1) (hr : r <:+ s) (hline : '\n' :: t <:+ r)
      (hclass : "class" ∉ mentionsBehind fuel r) : String.ofList name ∈ mentionsBehind fuel r := by
    obtain ⟨later, heq, hlater, hlength⟩ := @exists_mentionsBehind fuel _ _ hline
    rw [heq] at hclass ⊢
    exact ih (by have := hr.length_le; omega) hlater hclass
  induction fuel generalizing s with
  | zero => exact absurd hfuel (Nat.not_lt_zero _)
  | succ fuel ih =>
      rcases hline with rfl | hline
      · rw [mentions_of_statement ht hname]
        exact List.mem_cons_self
      · rcases mentions_succ fuel s with heq | ⟨name', rest', hs, hname', heq⟩
        · rw [heq] at hclass ⊢
          exact hbehind ih hfuel List.suffix_rfl hline hclass
        · rw [heq] at hclass ⊢
          rw [List.mem_cons, not_or] at hclass
          rcases statement_overlap hs hname' ht hline with hline | rfl
          · exact List.mem_cons_of_mem _ (hbehind ih hfuel hs.suffix hline hclass.2)
          · exact absurd String.ofList_toList.symm hclass.1

/-- The text declares a class of the name where one of its lines starts, and the name begins with an
ASCII letter or the underscore. -/
def DeclaresPlainly (source name : String) : Prop :=
  startsPlainly name.toList = true ∧
    ∃ t rest, StartsLine t source.toList ∧ Statement name.toList rest t

theorem DeclaresPlainly.mentioned {source name : String} (h : DeclaresPlainly source name)
    (hclass : "class" ∉ mentions (source.length + 1) source.toList) :
    name ∈ mentions (source.length + 1) source.toList := by
  obtain ⟨hstart, t, rest, ht, hstatement⟩ := h
  have hfuel : source.toList.length < source.length + 1 := by
    rw [String.length_toList]
    exact Nat.lt_succ_self _
  have hmention := mem_mentions hstatement hstart hfuel ht hclass
  rwa [String.ofList_toList] at hmention

/-- The outline of a plain text lists only classes that are declared so, if their names begin with
an ASCII letter or the underscore. -/
theorem declaresPlainly_of_mem_classNames {source name : String} (hplain : Plain source.toList)
    (h : name ∈ classNames source) (hstart : startsPlainly name.toList = true) :
    DeclaresPlainly source name :=
  ⟨hstart, exists_statement hplain h⟩

/-- The text seems to declare a class that is named after the file. -/
def HasCandidate (fileName source : String) : Prop :=
  ∃ name ∈ mentions (source.length + 1) source.toList, isNamedAfter fileName name = true

theorem declaredClassNameBy_of_candidate {fileName source : String}
    (h : HasCandidate fileName source) (names : List String) :
    declaredClassNameBy names fileName source = names.find? (isNamedAfter fileName) :=
  if_pos (List.any_eq_true.2 h)

theorem declaredClassNameBy_eq_none {fileName source : String}
    (h : ¬HasCandidate fileName source) (names : List String) :
    declaredClassNameBy names fileName source = none :=
  if_neg fun hany => h (List.any_eq_true.1 hany)

/-- Whatever classes a parser lists for a text, the answer is none or the first of them that is
named after the file. It is none although there is such a class in one case alone: no name that the
text seems to declare is that of the file. This does not happen where the class is declared at the
start of a line by a name that begins with an ASCII letter or the underscore, and no line seems to
declare a class by the name of the word itself. -/
theorem declaredClassName_namedLike (names : List String) (fileName source : String) :
    (∀ name, declaredClassNameBy names fileName source = some name →
      names.find? (isNamedAfter fileName) = some name) ∧
    (declaredClassNameBy names fileName source = names.find? (isNamedAfter fileName) ↔
      (∀ name ∈ names, isNamedAfter fileName name = false) ∨ HasCandidate fileName source) ∧
    ("class" ∉ mentions (source.length + 1) source.toList →
      (∀ name, names.find? (isNamedAfter fileName) = some name → DeclaresPlainly source name) →
      declaredClassNameBy names fileName source = names.find? (isNamedAfter fileName)) := by
  refine ⟨fun name h => ?_, ⟨fun h => ?_, fun h => ?_⟩, fun hclass hdeclares => ?_⟩
  · by_cases hcandidate : HasCandidate fileName source
    · exact (declaredClassNameBy_of_candidate hcandidate names).symm.trans h
    · cases (declaredClassNameBy_eq_none hcandidate names).symm.trans h
  · by_cases hcandidate : HasCandidate fileName source
    · exact .inr hcandidate
    · have hnone := h.symm.trans (declaredClassNameBy_eq_none hcandidate names)
      exact .inl fun name hname => Bool.eq_false_iff.2 (List.find?_eq_none.1 hnone name hname)
  · by_cases hcandidate : HasCandidate fileName source
    · exact declaredClassNameBy_of_candidate hcandidate names
    · have hother := h.resolve_right hcandidate
      have hnone : names.find? (isNamedAfter fileName) = none :=
        List.find?_eq_none.2 fun name hname => Bool.eq_false_iff.1 (hother name hname)
      exact (declaredClassNameBy_eq_none hcandidate names).trans hnone.symm
  · by_cases hcandidate : HasCandidate fileName source
    · exact declaredClassNameBy_of_candidate hcandidate names
    · -- without a candidate the list has no class of the name
      have hnone : names.find? (isNamedAfter fileName) = none :=
        Option.eq_none_iff_forall_ne_some.2 fun name h => hcandidate
          ⟨name, (hdeclares name h).mentioned hclass, List.find?_some h⟩
      exact (declaredClassNameBy_eq_none hcandidate names).trans hnone.symm

theorem declaredClassName_namedLike_log :
    "class" ∉ mentions ("class Log:\n    pass\n".length + 1) "class Log:\n    pass\n".toList ∧
    DeclaresPlainly "class Log:\n    pass\n" "Log" ∧
    declaredClassNameBy ["Log"] "log.py" "class Log:\n    pass\n" = some "Log" := by
  have hfind : ["Log"].find? (isNamedAfter "log.py") = some "Log" := by decide +kernel
  have hclass : "class" ∉ mentions ("class Log:\n    pass\n".length + 1)
      "class Log:\n    pass\n".toList := by decide +kernel
  have hdeclares : DeclaresPlainly "class Log:\n    pass\n" "Log" := by
    refine ⟨by decide, _, ":\n    pass\n".toList, .inl rfl, ?_⟩
    have hstatement : Statement "Log".toList ":\n    pass\n".toList
        ([] ++ ("class".toList ++ ([' '] ++ ("Log".toList ++ ":\n    pass\n".toList)))) :=
      .intro (by simp) (by simp) (List.all_eq_true.1 rfl) (List.all_eq_true.1 (by decide +kernel))
        (by rintro c ⟨⟩; decide +kernel)
    exact hstatement
  obtain ⟨-, -, hsame⟩ := declaredClassName_namedLike ["Log"] "log.py" "class Log:\n    pass\n"
  have hdeclared := hsame hclass fun name h => by
    cases hfind.symm.trans h
    exact hdeclares
  exact ⟨hclass, hdeclares, hdeclared.trans hfind⟩

/-- A class whose name begins with a letter of another alphabet is not looked for, nor one whose
name stands behind a continuation of the line, though a parser lists both. -/
theorem declaredClassName_misses :
    (["Über"].find? (isNamedAfter "über.py") = some "Über" ∧
      declaredClassNameBy ["Über"] "über.py" "class Über:\n    pass\n" = none) ∧
    (["Log"].find? (isNamedAfter "log.py") = some "Log" ∧
      declaredClassNameBy ["Log"] "log.py" "class \\\nLog:\n    pass\n" = none) := by
  decide +kernel

end Exposure.Source.Outline
