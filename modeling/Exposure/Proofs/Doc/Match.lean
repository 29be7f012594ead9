import Exposure.Proofs.Doc.Line
import Exposure.Proofs.Pattern.Repetition

/-!
A match of the pattern of a tag at one place of a text. The parts of the pattern are followed from
the last to the first, so that each is known by what matches behind it.
-/
namespace Exposure.Doc

open Pattern
open Text (isBlank isWord firstLine)

def tagOptions : Options := { multiline := true }

def blankTest : CharTest := .set false [.category .space false]

def startTest : CharTest := .set false [.range 65 90, .range 97 122, .range 95 95]

def continueTest : CharTest := .set false [.category .word false, .range 45 45]

def gapTest : CharTest := .set false [.range 32 32, .range 9 9]

/-- A greedy repetition of a test. -/
def many (test : CharTest) : Regex := .repetition 0 none .greedy (.one tagOptions test)

def endPart : Regex := .seq (many blankTest) (.anchor tagOptions .lineEnd)

def valuePart : Regex :=
  .seq (.capture 2 (.repetition 0 none .lazy (.one tagOptions .any))) endPart

def gapPart : Regex := .seq (many gapTest) valuePart

def namePart : Regex :=
  .seq (.capture 1 (.seq (.one tagOptions startTest) (many continueTest))) gapPart

def signPart : Regex := .seq (.one tagOptions (.char 64)) namePart

def indentPart : Regex := .seq (many blankTest) signPart

def starPart : Regex :=
  .seq (.repetition 0 (some 1) .greedy (.one tagOptions (.char 42))) indentPart

theorem tagPattern_eq :
    tagPattern = .seq (.anchor tagOptions .lineStart) (.seq (many blankTest) starPart) := by
  decide +kernel

theorem holds_range (first last : Nat) (c : Char) :
    (SetItem.range first last).holds tagOptions c = (first ≤ c.toNat && c.toNat ≤ last) := rfl

/-- A range of one code point holds that character only. -/
theorem between_self (c d : Char) : (decide (d.toNat ≤ c.toNat) && decide (c.toNat ≤ d.toNat)) =
    decide (c = d) := by
  rw [← Bool.decide_and, decide_eq_decide, Nat.le_antisymm_iff.symm, Char.toNat_inj, eq_comm]

theorem holds_blankTest (c : Char) : blankTest.holds tagOptions c = isBlank c := by
  simp [blankTest, tagOptions, CharTest.holds, SetItem.holds, Category.holds]

theorem holds_continueTest (c : Char) : continueTest.holds tagOptions c = continuesName c := by
  have hword : (SetItem.category .word false).holds tagOptions c = isWord c := by
    simp [SetItem.holds, Category.holds, tagOptions]
  have hdash := between_self c '-'
  simp only [continueTest, CharTest.holds, List.any_cons, List.any_nil, hword, holds_range,
    Bool.or_false, Bool.bne_false, continuesName]
  exact congrArg (isWord c || ·) hdash

theorem holds_startTest (c : Char) : startTest.holds tagOptions c = startsName c := by
  have hline := between_self c '_'
  have hupper : (decide (65 ≤ c.toNat) && decide (c.toNat ≤ 90)) = c.isUpper :=
    (Bool.decide_and ..).symm
  have hlower : (decide (97 ≤ c.toNat) && decide (c.toNat ≤ 122)) = c.isLower := rfl
  have halpha : (c.isUpper || c.isLower) = c.isAlpha := rfl
  simp only [startTest, CharTest.holds, List.any_cons, List.any_nil, holds_range, hupper, hlower,
    Bool.or_false, Bool.bne_false, startsName, ← hline, ← halpha, Bool.or_assoc]
  rfl

theorem holds_gapTest (c : Char) : gapTest.holds tagOptions c = isGap c := by
  have hspace := between_self c ' '
  have htab := between_self c '\t'
  simp only [gapTest, CharTest.holds, List.any_cons, List.any_nil, holds_range,
    Bool.or_false, Bool.bne_false, isGap, ← hspace, ← htab]
  rfl

theorem holds_any (c : Char) : CharTest.any.holds tagOptions c = decide (c ≠ '\n') := by
  simp [CharTest.holds, tagOptions]

theorem holds_char (code : Nat) (c : Char) :
    (CharTest.char code).holds tagOptions c = (c.toNat == code) := by
  simp [CharTest.holds, tagOptions]

variable {text : Array Char} {p : Point}

theorem holds_lineEnd (hp : p.position ≤ text.size) :
    Anchor.lineEnd.holds text tagOptions p.position = true ↔ firstLine (p.ahead text) = [] := by
  have hlength := length_ahead text p
  rw [Anchor.holds, getElem?_position]
  cases hs : p.ahead text with
  | nil =>
      have hend : p.position = text.size := by
        rw [hs, List.length_nil] at hlength
        omega
      simp [hend]
  | cons c s =>
      have hend : p.position ≠ text.size := by
        rw [hs, List.length_cons] at hlength
        omega
      by_cases hn : c = '\n'
      · simp [hn, tagOptions]
      · simp [hn, hend, Text.firstLine_cons hn]

theorem advance_inside {n : Nat} (hp : p.position ≤ text.size) (hn : n ≤ (p.ahead text).length) :
    (p.advance n).position ≤ text.size := by
  rw [length_ahead] at hn
  change p.position + n ≤ text.size
  omega

/-- From `p` on to `q`, which is no further back, no line begins that holds a tag. -/
structure Leads (text : Array Char) (p q : Point) : Prop where
  further : furtherTags (p.ahead text) = furtherTags (q.ahead text)
  forward : p.position ≤ q.position
  inside : q.position ≤ text.size

theorem Leads.trans {q r : Point} (h : Leads text p q) (h' : Leads text q r) : Leads text p r :=
  ⟨h.further.trans h'.further, Nat.le_trans h.forward h'.forward, h'.inside⟩

theorem leads_advance {n : Nat} (hp : p.position ≤ text.size) (hn : n ≤ (p.ahead text).length)
    (hline : '\n' ∉ (p.ahead text).take n) : Leads text p (p.advance n) where
  further := by
    rw [Point.ahead_advance, ← furtherTags_append hline ((p.ahead text).drop n),
      List.take_append_drop]
  forward := Nat.le_add_right p.position n
  inside := advance_inside hp hn

theorem Leads.of_enter {q : Point} {number : Nat} (h : Leads text (p.enter number) q) :
    Leads text p q := ⟨h.further, h.forward, h.inside⟩

theorem Leads.capture {q : Point} (h : Leads text p q) (number start : Nat) :
    Leads text p (q.capture number start) := ⟨h.further, h.forward, h.inside⟩

theorem passing_eq {test : CharTest} {f : Char → Bool}
    (h : ∀ c, test.holds tagOptions c = f c) :
    passing text tagOptions test p = ((p.ahead text).takeWhile f).length := by
  rw [passing, funext h]

theorem run_endPart (text : Array Char) (p : Point) :
    endPart.run text p some = (many blankTest).run text p fun q =>
      if Anchor.lineEnd.holds text tagOptions q.position then some q else none := rfl

theorem firstLine_drop {s : List Char} {n : Nat} (hn : n ≤ (firstLine s).length) :
    firstLine (s.drop n) = (firstLine s).drop n := Text.takeWhile_drop hn

/-- Blanks at the end of a line are taken up to the end of this line or of a further one. -/
theorem run_endPart_of_blank (hp : p.position ≤ text.size)
    (h : ∀ c ∈ firstLine (p.ahead text), isBlank c = true) :
    ∃ n, endPart.run text p some = some (p.advance n) ∧ Leads text p (p.advance n) ∧
      firstLine ((p.advance n).ahead text) = [] := by
  have hline : (firstLine (p.ahead text)).length ≤ passing text tagOptions blankTest p := by
    have hle := Text.length_le_takeWhile_append h ((p.ahead text).dropWhile (· ≠ '\n'))
    rwa [Text.firstLine_append_dropWhile, ← passing_eq holds_blankTest] at hle
  have hle := passing_le text tagOptions blankTest p
  obtain ⟨n, hn, m, hm, hrun⟩ := run_greedy_somewhere (k := fun q =>
    if Anchor.lineEnd.holds text tagOptions q.position then some q else none) hline (by
      rw [(holds_lineEnd (advance_inside hp (Nat.le_trans hline hle))).2]
      · rfl
      · rw [Point.ahead_advance, firstLine_drop (Nat.le_refl _), List.drop_length])
  have hinside := advance_inside hp (Nat.le_trans hn hle)
  split at hm
  · rename_i hend
    cases hm
    rw [holds_lineEnd hinside] at hend
    refine ⟨n, hrun, ⟨?_, Nat.le_add_right p.position n, hinside⟩, hend⟩
    rw [passing_eq holds_blankTest] at hn
    rw [Point.ahead_advance] at hend ⊢
    rw [← furtherTags_blanks (fun c => Text.of_mem_take_takeWhile hn) hend,
      List.take_append_drop]
  · cases hm

/-- Other characters must not be left over. -/
theorem run_endPart_of_not_blank (hp : p.position ≤ text.size)
    (h : ∃ c ∈ firstLine (p.ahead text), isBlank c = false) : endPart.run text p some = none := by
  obtain ⟨c, hc, hblank⟩ := h
  rw [run_endPart, many, run_greedy, List.findSome?_eq_none_iff]
  intro j hj
  have hj : j ≤ passing text tagOptions blankTest p := Nat.le_of_lt_succ (by simpa using hj)
  have hle := passing_le text tagOptions blankTest p
  refine if_neg fun hend => ?_
  rw [holds_lineEnd (advance_inside hp (Nat.le_trans hj hle)), Point.ahead_advance] at hend
  rw [passing_eq holds_blankTest] at hj
  have hpos := Text.of_mem_take_takeWhile hj (Text.mem_take_of_mem_firstLine hend hc)
  rw [hblank] at hpos
  cases hpos

/-- From `p` on, a value is read and the match ends at `m`, which is at the end of a line. -/
structure Closes (text : Array Char) (p : Point) (value : List Char) (m : Point) : Prop
    extends Leads text p m where
  value : m.captured text 2 = some value
  name : m.captured text 1 = p.captured text 1
  atEnd : firstLine (m.ahead text) = []

theorem run_valuePart (hp : p.position ≤ text.size) :
    ∃ m, valuePart.run text p some = some m ∧
      Closes text p (trimEnd (firstLine (p.ahead text))) m := by
  let line := firstLine (p.ahead text)
  let n := (trimEnd line).length
  -- Behind the group the rest of the pattern starts with what the group has captured.
  let behind (j : Nat) : Point := ((p.enter 2).advance j).capture 2 p.position
  have hn : n ≤ line.length := length_trimEnd_le line
  have hlength : line.length ≤ (p.ahead text).length := (List.takeWhile_sublist _).length_le
  have hinside (j : Nat) (hj : j ≤ n) : (behind j).position ≤ text.size :=
    advance_inside (p := p.enter 2) hp (by rw [Point.ahead_enter]; omega)
  have hline (j : Nat) (hj : j ≤ n) : firstLine ((behind j).ahead text) = line.drop j := by
    rw [Point.ahead_capture, Point.ahead_advance, Point.ahead_enter,
      firstLine_drop (Nat.le_trans hj hn)]
  have hvalue : (p.ahead text).take n = trimEnd line := take_length_trimEnd_firstLine _
  have hpast : Leads text p (behind n) := by
    refine (leads_advance (p := p.enter 2) hp ?_ ?_).of_enter.capture 2 p.position
    · rw [Point.ahead_enter]
      omega
    · rw [Point.ahead_enter, hvalue]
      exact newline_notMem_trimEnd _
  obtain ⟨e, hend, hleads, hatEnd⟩ := run_endPart_of_blank (hinside n (Nat.le_refl n)) (by
    rw [hline n (Nat.le_refl n)]
    exact drop_length_trimEnd line)
  have hshort (j : Nat) (hj : j < n) : endPart.run text (behind j) some = none := by
    refine run_endPart_of_not_blank (hinside j (Nat.le_of_lt hj)) ?_
    rw [hline j (Nat.le_of_lt hj)]
    exact exists_not_blank_of_lt hj
  have hany : passing text tagOptions .any (p.enter 2) = line.length := passing_eq holds_any
  have hrun := run_lazy_of_first (k := fun q => endPart.run text (q.capture 2 p.position) some)
    (hany ▸ hn) hshort hend
  refine ⟨(behind n).advance e, hrun, hpast.trans hleads, ?_, rfl, hatEnd⟩
  exact ((p.enter 2).captured_capture text 2 n).trans (congrArg some hvalue)

theorem run_gapPart (hp : p.position ≤ text.size) :
    ∃ m, gapPart.run text p some = some m ∧ Closes text p (tagValue (p.ahead text)) m := by
  let q := p.advance (passing text tagOptions gapTest p)
  have hq : q.ahead text = (p.ahead text).dropWhile isGap := by
    rw [ahead_advance_passing, funext holds_gapTest]
  have hleads : Leads text p q :=
    leads_advance hp (passing_le text tagOptions gapTest p) fun h => by
      have hgap := Text.of_mem_take_takeWhile (Nat.le_of_eq (passing_eq holds_gapTest)) h
      cases hgap
  obtain ⟨m, hrun, hm⟩ := run_valuePart hleads.inside
  refine ⟨m, run_greedy_of_some hrun, { hleads.trans hm.toLeads with
    value := ?_
    name := hm.name
    atEnd := hm.atEnd }⟩
  rw [hm.value, hq]
  rfl

theorem run_namePart (text : Array Char) (p : Point) :
    namePart.run text p some = (Regex.one tagOptions startTest).run text (p.enter 1) fun q =>
      (many continueTest).run text q fun r =>
        gapPart.run text (r.capture 1 p.position) some := rfl

theorem run_namePart_of_none (h : tagName? (p.ahead text) = none) :
    namePart.run text p some = none := by
  rw [run_namePart]
  refine run_one_of_not fun c hc => ?_
  rw [Point.ahead_enter] at hc
  cases hs : p.ahead text with
  | nil => simp [hs] at hc
  | cons d s =>
      rw [hs] at h hc
      cases hc
      rw [holds_startTest]
      simpa [tagName?] using h

/-- From `p` on, a tag with this name is read and the match ends at `m`, which is at the end of a
line. -/
structure Reads (text : Array Char) (p : Point) (name rest : List Char) (m : Point) : Prop where
  name : m.captured text 1 = some name
  value : m.captured text 2 = some (tagValue rest)
  further : furtherTags rest = furtherTags (m.ahead text)
  atEnd : firstLine (m.ahead text) = []
  forward : p.position < m.position
  inside : m.position ≤ text.size

theorem run_namePart_of_some {name rest : List Char} (hp : p.position ≤ text.size)
    (h : tagName? (p.ahead text) = some (name, rest)) :
    ∃ m, namePart.run text p some = some m ∧ Reads text p name rest m := by
  cases hs : p.ahead text with
  | nil => simp [hs, tagName?] at h
  | cons c s =>
      rw [hs, tagName?] at h
      split at h
      · rename_i hc
        cases h
        let first := (p.enter 1).advance 1
        let n := passing text tagOptions continueTest first
        let behind : Point := (first.advance n).capture 1 p.position
        have hs' : first.ahead text = s := by
          rw [Point.ahead_advance, Point.ahead_enter, hs]
          rfl
        have hn : n = (s.takeWhile continuesName).length := by
          rw [← hs']
          exact passing_eq holds_continueTest
        have hrest : behind.ahead text = s.dropWhile continuesName := by
          rw [Point.ahead_capture, Point.ahead_advance, hs', hn, Text.drop_length_takeWhile]
        have hname : behind.captured text 1 = some (c :: s.takeWhile continuesName) := by
          have htake : s.take n = s.takeWhile continuesName := by
            rw [hn, Text.take_length_takeWhile]
          have hcaptured := (p.enter 1).captured_capture text 1 (1 + n)
          rwa [Point.ahead_enter, hs, Nat.add_comm, List.take_succ_cons, htake, Nat.add_comm,
            ← Point.advance_advance] at hcaptured
        have hinside : behind.position ≤ text.size := by
          refine advance_inside (advance_inside (p := p.enter 1) hp ?_) (passing_le text _ _ _)
          simp [hs]
        obtain ⟨m, hrun, hm⟩ := run_gapPart hinside
        refine ⟨m, ?_, hm.name.trans hname, hrest ▸ hm.value, hrest ▸ hm.further, hm.atEnd, ?_,
          hm.inside⟩
        · rw [run_namePart, run_one_cons ((Point.ahead_enter text p 1).trans hs), holds_startTest,
            if_pos hc]
          exact run_greedy_of_some
            (k := fun r => gapPart.run text (r.capture 1 p.position) some) hrun
        · refine Nat.lt_of_lt_of_le ?_ hm.forward
          change p.position < p.position + 1 + n
          omega
      · cases h

theorem run_char_of_ne {c : Char} {k : Rest} (h : ∀ s, p.ahead text ≠ c :: s) :
    (Regex.one tagOptions (.char c.toNat)).run text p k = none := by
  refine run_one_of_not fun d hd => ?_
  obtain ⟨s, hs⟩ := List.head?_eq_some_iff.1 hd
  rw [holds_char]
  exact beq_false_of_ne fun hcode => h s (Char.toNat_inj.1 hcode ▸ hs)

theorem run_signPart (text : Array Char) (p : Point) :
    signPart.run text p some = (Regex.one tagOptions (.char 64)).run text p fun q =>
      namePart.run text q some := rfl

theorem run_signPart_cons {s : List Char} (h : p.ahead text = '@' :: s) :
    signPart.run text p some = namePart.run text (p.advance 1) some := by
  rw [run_signPart, run_one_cons h]
  rfl

theorem run_signPart_of_ne (h : ∀ s, p.ahead text ≠ '@' :: s) :
    signPart.run text p some = none := by
  rw [run_signPart]
  exact run_char_of_ne h

/-- The place behind the blanks in front of a place. -/
def skipBlanks (text : Array Char) (p : Point) : Point :=
  p.advance (passing text tagOptions blankTest p)

theorem ahead_skipBlanks (text : Array Char) (p : Point) :
    (skipBlanks text p).ahead text = (p.ahead text).dropWhile isBlank := by
  rw [skipBlanks, ahead_advance_passing, funext holds_blankTest]

theorem skipBlanks_inside (hp : p.position ≤ text.size) :
    (skipBlanks text p).position ≤ text.size := advance_inside hp (passing_le text _ _ p)

theorem skipBlanks_advance {j : Nat} (hj : j ≤ passing text tagOptions blankTest p) :
    skipBlanks text (p.advance j) = skipBlanks text p := by
  rw [skipBlanks, passing_advance hj, Point.advance_advance, Nat.add_sub_cancel' hj, skipBlanks]

theorem skipBlanks_skipBlanks (text : Array Char) (p : Point) :
    skipBlanks text (skipBlanks text p) = skipBlanks text p :=
  skipBlanks_advance (Nat.le_refl _)

theorem ahead_ne_of_lt {j : Nat} (hj : j < passing text tagOptions blankTest p) {c : Char}
    (hc : isBlank c = false) : ∀ s, (p.advance j).ahead text ≠ c :: s := by
  obtain ⟨d, r, hd, hblank⟩ := ahead_advance_of_lt hj
  intro s hs
  rw [hd] at hs
  cases hs
  rw [holds_blankTest, hc] at hblank
  cases hblank

/-- What fails at a blank need be tried behind the blanks only. -/
theorem run_indentPart (text : Array Char) (p : Point) : indentPart.run text p some =
    signPart.run text (skipBlanks text p) some := by
  refine run_greedy_of_forall (k := fun q => signPart.run text q some) fun j hj => ?_
  exact .inl (run_signPart_of_ne (ahead_ne_of_lt hj (by decide)))

theorem run_starPart (text : Array Char) (p : Point) : starPart.run text p some =
    ((Regex.one tagOptions (.char 42)).run text p fun q => indentPart.run text q some).or
      (indentPart.run text p some) := run_optional ..

theorem run_starPart_cons {s : List Char} (h : p.ahead text = '*' :: s) :
    starPart.run text p some = indentPart.run text (p.advance 1) some := by
  have hnone : indentPart.run text p some = none := by
    rw [run_indentPart]
    refine run_signPart_of_ne fun r hr => ?_
    rw [ahead_skipBlanks, h, List.dropWhile_cons_of_neg (by decide)] at hr
    cases hr
  rw [run_starPart, hnone, run_one_cons h, Option.or_none]
  rfl

theorem run_starPart_of_ne (h : ∀ s, p.ahead text ≠ '*' :: s) :
    starPart.run text p some = indentPart.run text p some := by
  have hnone : ((Regex.one tagOptions (.char 42)).run text p fun q =>
      indentPart.run text q some) = none := run_char_of_ne h
  rw [run_starPart, hnone, Option.none_or]

theorem run_tagPattern (hstart : Anchor.lineStart.holds text tagOptions p.position = true) :
    tagPattern.run text p some = starPart.run text (skipBlanks text p) some := by
  have hbehind : tagPattern.run text p some =
      (many blankTest).run text p fun q => starPart.run text q some := by
    rw [tagPattern_eq]
    exact if_pos hstart
  rw [hbehind]
  refine run_greedy_of_forall (k := fun q => starPart.run text q some) fun j hj => ?_
  -- Behind fewer blanks there is no star, and a tag is met there just if one is behind all of them.
  have hfewer : starPart.run text (p.advance j) some =
      signPart.run text (skipBlanks text p) some := by
    rw [run_starPart_of_ne (ahead_ne_of_lt hj (by decide)), run_indentPart,
      skipBlanks_advance (Nat.le_of_lt hj)]
  by_cases hstar : ∃ s, (skipBlanks text p).ahead text = '*' :: s
  · obtain ⟨s, hs⟩ := hstar
    refine .inl (hfewer.trans (run_signPart_of_ne fun r hr => ?_))
    rw [hs] at hr
    cases hr
  · refine .inr (hfewer.trans ?_)
    rw [← skipBlanks, run_starPart_of_ne fun s hs => hstar ⟨s, hs⟩, run_indentPart,
      skipBlanks_skipBlanks]

/-- At the start of a line the pattern is followed up to the place where a tag may start. -/
theorem run_tagPattern_tagStart (hp : p.position ≤ text.size)
    (hstart : Anchor.lineStart.holds text tagOptions p.position = true) :
    ∃ q, q.ahead text = tagStart (p.ahead text) ∧ p.position ≤ q.position ∧
      q.position ≤ text.size ∧ tagPattern.run text p some = signPart.run text q some := by
  have hforward (q : Point) : q.position ≤ (skipBlanks text q).position := Nat.le_add_right _ _
  rw [run_tagPattern hstart]
  by_cases hstar : ∃ r, (skipBlanks text p).ahead text = '*' :: r
  · obtain ⟨r, hr⟩ := hstar
    have hadvance : ((skipBlanks text p).advance 1).ahead text = r := by
      rw [Point.ahead_advance, hr]
      rfl
    refine ⟨skipBlanks text ((skipBlanks text p).advance 1), ?_, ?_, ?_, ?_⟩
    · rw [ahead_skipBlanks, hadvance, tagStart_of_star (ahead_skipBlanks text p ▸ hr)]
    · have hnext := hforward ((skipBlanks text p).advance 1)
      exact Nat.le_trans (hforward p) (Nat.le_of_succ_le hnext)
    · exact skipBlanks_inside (advance_inside (skipBlanks_inside hp) (by simp [hr]))
    · rw [run_starPart_cons hr, run_indentPart]
  · have hne : ∀ r, (skipBlanks text p).ahead text ≠ '*' :: r := fun r hr => hstar ⟨r, hr⟩
    refine ⟨skipBlanks text p, ?_, hforward p, skipBlanks_inside hp, ?_⟩
    · rw [tagStart_of_ne (ahead_skipBlanks text p ▸ hne), ahead_skipBlanks]
    · rw [run_starPart_of_ne hne, run_indentPart, skipBlanks_skipBlanks]

theorem run_tagPattern_of_not
    (hstart : Anchor.lineStart.holds text tagOptions p.position = false) :
    tagPattern.run text p some = none := by
  rw [tagPattern_eq]
  exact if_neg (by simp [hstart])

theorem run_tagPattern_of_none (hp : p.position ≤ text.size)
    (h : tagParts? (p.ahead text) = none) : tagPattern.run text p some = none := by
  cases hstart : Anchor.lineStart.holds text tagOptions p.position with
  | false => exact run_tagPattern_of_not hstart
  | true =>
      obtain ⟨q, hq, -, -, hrun⟩ := run_tagPattern_tagStart hp hstart
      rw [hrun]
      by_cases hsign : ∃ s, q.ahead text = '@' :: s
      · obtain ⟨s, hs⟩ := hsign
        rw [tagParts?, ← hq, hs] at h
        rw [run_signPart_cons hs]
        exact run_namePart_of_none (by rwa [Point.ahead_advance, hs])
      · exact run_signPart_of_ne fun s hs => hsign ⟨s, hs⟩

theorem run_tagPattern_of_some {name rest : List Char} (hp : p.position ≤ text.size)
    (hstart : Anchor.lineStart.holds text tagOptions p.position = true)
    (h : tagParts? (p.ahead text) = some (name, rest)) :
    ∃ m, tagPattern.run text p some = some m ∧ Reads text p name rest m := by
  obtain ⟨q, hq, hforward, hinside, hrun⟩ := run_tagPattern_tagStart hp hstart
  rw [tagParts?, ← hq] at h
  split at h
  · rename_i s hs
    have hnext : (q.advance 1).position ≤ text.size := advance_inside hinside (by simp [hs])
    obtain ⟨m, hm, hreads⟩ := run_namePart_of_some hnext (by rwa [Point.ahead_advance, hs])
    refine ⟨m, by rw [hrun, run_signPart_cons hs, hm], { hreads with forward := ?_ }⟩
    exact Nat.lt_of_le_of_lt (Nat.le_trans hforward (Nat.le_add_right _ 1)) hreads.forward
  · cases h

end Exposure.Doc
