import Exposure.Pattern.Matcher
import Exposure.Proofs.Text.Run

/-!
Repetition of a test on single characters, and the search for all matches. A repetition can end
anywhere along the run of characters that pass the test: at the far end first if it is greedy, at
the near end first if it is lazy. The search goes position by position: where no match begins it
goes one character on, and behind a match it goes on at the match's end.
-/
namespace Exposure.Pattern

variable {text : Array Char} {o : Options} {test : CharTest} {p : Point} {k : Rest}

/-- What is in front of a place. -/
def Point.ahead (text : Array Char) (p : Point) : List Char := text.toList.drop p.position

/-- The place some characters further on. -/
def Point.advance (p : Point) (n : Nat) : Point := { p with position := p.position + n }

/-- How many characters in front of a place pass a test, one after the other. -/
def passing (text : Array Char) (o : Options) (test : CharTest) (p : Point) : Nat :=
  ((p.ahead text).takeWhile (test.holds o)).length

@[simp] theorem Point.advance_zero (p : Point) : p.advance 0 = p := rfl

@[simp] theorem Point.advance_advance (p : Point) (m n : Nat) :
    (p.advance m).advance n = p.advance (m + n) := by simp [advance, Nat.add_assoc]

@[simp] theorem Point.ahead_advance (text : Array Char) (p : Point) (n : Nat) :
    (p.advance n).ahead text = (p.ahead text).drop n := by simp [ahead, advance]

@[simp] theorem Point.ahead_enter (text : Array Char) (p : Point) (number : Nat) :
    (p.enter number).ahead text = p.ahead text := rfl

@[simp] theorem Point.ahead_capture (text : Array Char) (p : Point) (number start : Nat) :
    (p.capture number start).ahead text = p.ahead text := rfl

/-- A group that began some characters before has captured these. -/
theorem Point.captured_capture (text : Array Char) (p : Point) (number n : Nat) :
    ((p.advance n).capture number p.position).captured text number =
      some ((p.ahead text).take n) := by
  simp [captured, capture, advance, ahead]

theorem getElem?_position (text : Array Char) (p : Point) :
    text[p.position]? = (p.ahead text).head? := by
  rw [Point.ahead, List.head?_drop, Array.getElem?_toList]

theorem passing_le (text : Array Char) (o : Options) (test : CharTest) (p : Point) :
    passing text o test p ≤ (p.ahead text).length := (List.takeWhile_sublist _).length_le

theorem length_ahead (text : Array Char) (p : Point) :
    (p.ahead text).length = text.size - p.position := by simp [Point.ahead]

theorem run_one_nil (h : p.ahead text = []) : (Regex.one o test).run text p k = none := by
  rw [Regex.run, getElem?_position, h]
  rfl

theorem run_one_cons {c : Char} {s : List Char} (h : p.ahead text = c :: s) :
    (Regex.one o test).run text p k = if test.holds o c then k (p.advance 1) else none := by
  rw [Regex.run, getElem?_position, h]
  rfl

theorem passing_advance {j : Nat} (hj : j ≤ passing text o test p) :
    passing text o test (p.advance j) = passing text o test p - j := by
  rw [passing, Point.ahead_advance, Text.takeWhile_drop hj, List.length_drop, passing]

theorem passing_cons {c : Char} {s : List Char} (h : p.ahead text = c :: s)
    (hc : test.holds o c = true) :
    passing text o test p = passing text o test (p.advance 1) + 1 := by
  simp [passing, h, hc]

theorem passing_eq_zero (h : ∀ c ∈ (p.ahead text).head?, test.holds o c = false) :
    passing text o test p = 0 := by
  cases hs : p.ahead text with
  | nil => simp [passing, hs]
  | cons c s => simp [passing, hs, h c (by simp [hs])]

theorem run_one_of_not (h : ∀ c ∈ (p.ahead text).head?, test.holds o c = false) :
    (Regex.one o test).run text p k = none := by
  cases hs : p.ahead text with
  | nil => exact run_one_nil hs
  | cons c s => simp [run_one_cons hs, h c (by simp [hs])]

theorem range_succ_findSome? {α : Type} (n : Nat) (f : Nat → Option α) :
    (List.range (n + 1)).findSome? f = (f 0).or ((List.range n).findSome? fun j => f (j + 1)) := by
  rw [List.range_succ_eq_map, List.findSome?_cons, List.findSome?_map]
  cases f 0 <;> rfl

theorem range_succ_reverse_findSome? {α : Type} (n : Nat) (f : Nat → Option α) :
    (List.range (n + 1)).reverse.findSome? f =
      ((List.range n).reverse.findSome? fun j => f (j + 1)).or (f 0) := by
  rw [List.range_succ_eq_map, List.reverse_cons, List.findSome?_append, ← List.map_reverse,
    List.findSome?_map]
  cases hf : f 0 <;> simp [hf, Function.comp_def]

/-- A round of a repetition of a test, which always gets further. -/
theorem furtherRounds_one {last : Option Nat} (lazy : Bool) (fuel : Nat)
    (hlast : ∀ i ∈ last, i < p.position) :
    furtherRounds ((Regex.one o test).run text) lazy (fuel + 1) none last p k =
      let further := (Regex.one o test).run text p fun q =>
        furtherRounds ((Regex.one o test).run text) lazy fuel none (some p.position) q k
      if lazy then (k p).or further else further.or (k p) := by
  have hmoved : last ≠ some p.position := fun h => Nat.lt_irrefl _ (hlast _ h)
  rw [furtherRounds, if_neg (by simpa using hmoved)]
  rfl

theorem furtherRounds_eq {fuel : Nat} {last : Option Nat} (lazy : Bool)
    (hlast : ∀ i ∈ last, i < p.position) (h : passing text o test p < fuel) :
    furtherRounds ((Regex.one o test).run text) lazy fuel none last p k =
      let ends := List.range (passing text o test p + 1)
      (if lazy then ends else ends.reverse).findSome? fun j => k (p.advance j) := by
  induction fuel generalizing p last with
  | zero => exact absurd h (Nat.not_lt_zero _)
  | succ fuel ih =>
      rw [furtherRounds_one lazy fuel hlast]
      by_cases hc : ∀ c ∈ (p.ahead text).head?, test.holds o c = false
      · cases lazy <;> simp [run_one_of_not hc, passing_eq_zero hc]
      · cases hs : p.ahead text with
        | nil => simp [hs] at hc
        | cons c s =>
            have hc : test.holds o c = true := by simpa [hs] using hc
            have hn := passing_cons hs hc
            have hmoved : ∀ i ∈ some p.position, i < (p.advance 1).position := by
              intro i hi
              cases hi
              exact Nat.lt_succ_self _
            have hrest := ih hmoved (by omega)
            cases lazy with
            | false =>
                simp only [Bool.false_eq_true, if_false] at hrest ⊢
                rw [range_succ_reverse_findSome?]
                simp [run_one_cons hs, hc, hrest, hn, Nat.add_comm]
            | true =>
                simp only [if_true] at hrest ⊢
                rw [range_succ_findSome?]
                simp [run_one_cons hs, hc, hrest, hn, Nat.add_comm]

theorem passing_lt_fuel (text : Array Char) (o : Options) (test : CharTest) (p : Point) :
    passing text o test p < text.size + 2 := by
  have hle := passing_le text o test p
  rw [length_ahead] at hle
  omega

theorem run_greedy (text : Array Char) (o : Options) (test : CharTest) (p : Point) (k : Rest) :
    (Regex.repetition 0 none .greedy (.one o test)).run text p k =
      (List.range (passing text o test p + 1)).reverse.findSome? fun j => k (p.advance j) :=
  furtherRounds_eq false nofun (passing_lt_fuel text o test p)

theorem run_lazy (text : Array Char) (o : Options) (test : CharTest) (p : Point) (k : Rest) :
    (Regex.repetition 0 none .lazy (.one o test)).run text p k =
      (List.range (passing text o test p + 1)).findSome? fun j => k (p.advance j) :=
  furtherRounds_eq true nofun (passing_lt_fuel text o test p)

theorem run_optional (text : Array Char) (o : Options) (test : CharTest) (p : Point) (k : Rest) :
    (Regex.repetition 0 (some 1) .greedy (.one o test)).run text p k =
      ((Regex.one o test).run text p k).or (k p) := by
  change furtherRounds ((Regex.one o test).run text) false (text.size + 1 + 1) (some 1) none p k = _
  cases hs : p.ahead text with
  | nil => simp [furtherRounds, run_one_nil hs]
  | cons c s => simp [furtherRounds, run_one_cons hs]

/-- A greedy repetition ends at the last place where the rest matches. -/
theorem run_greedy_of_last {n : Nat} {m : Point} (hn : n ≤ passing text o test p)
    (hlast : ∀ j, n < j → j ≤ passing text o test p → k (p.advance j) = none)
    (hk : k (p.advance n) = some m) :
    (Regex.repetition 0 none .greedy (.one o test)).run text p k = some m := by
  have ⟨d, hd⟩ : ∃ d, passing text o test p + 1 = n + 1 + d :=
    Nat.exists_eq_add_of_le (Nat.succ_le_succ hn)
  rw [run_greedy, hd, List.range_add, List.range_succ, List.reverse_append, List.reverse_concat,
    List.findSome?_eq_some_iff]
  refine ⟨_, n, _, rfl, hk, fun j hj => ?_⟩
  obtain ⟨i, hi, rfl⟩ := List.mem_map.1 (List.mem_reverse.1 hj)
  have hi := List.mem_range.1 hi
  exact hlast _ (by omega) (by omega)

theorem run_greedy_of_some {m : Point} (h : k (p.advance (passing text o test p)) = some m) :
    (Regex.repetition 0 none .greedy (.one o test)).run text p k = some m :=
  run_greedy_of_last (Nat.le_refl _) (fun _ hlt hle => absurd hlt (Nat.not_lt.2 hle)) h

/-- It goes as far as it can if the rest matches at no nearer place, or at all of them alike. -/
theorem run_greedy_of_forall
    (h : ∀ j < passing text o test p, k (p.advance j) = none ∨
      k (p.advance j) = k (p.advance (passing text o test p))) :
    (Regex.repetition 0 none .greedy (.one o test)).run text p k =
      k (p.advance (passing text o test p)) := by
  cases hk : k (p.advance (passing text o test p)) with
  | some m => exact run_greedy_of_some hk
  | none =>
      rw [run_greedy, List.findSome?_eq_none_iff]
      intro j hj
      have hj : j ≤ passing text o test p := Nat.le_of_lt_succ (by simpa using hj)
      obtain hlt | rfl := Nat.lt_or_eq_of_le hj
      · exact (h j hlt).elim id (·.trans hk)
      · exact hk

/-- A greedy repetition ends somewhere if the rest matches somewhere. -/
theorem run_greedy_somewhere {n : Nat} (hn : n ≤ passing text o test p)
    (hk : (k (p.advance n)).isSome) :
    ∃ j ≤ passing text o test p, ∃ m, k (p.advance j) = some m ∧
      (Regex.repetition 0 none .greedy (.one o test)).run text p k = some m := by
  have hsome : ((List.range (passing text o test p + 1)).reverse.findSome? fun j =>
      k (p.advance j)).isSome := by
    rw [List.findSome?_isSome_iff]
    exact ⟨n, by simpa using Nat.lt_succ_of_le hn, hk⟩
  obtain ⟨m, hm⟩ := Option.isSome_iff_exists.1 hsome
  obtain ⟨j, hj, hkj⟩ := List.exists_of_findSome?_eq_some hm
  have hj : j ≤ passing text o test p := Nat.le_of_lt_succ (by simpa using hj)
  exact ⟨j, hj, m, hkj, (run_greedy ..).trans hm⟩

/-- A lazy repetition ends at the first place where the rest matches. -/
theorem run_lazy_of_first {n : Nat} {m : Point} (hn : n ≤ passing text o test p)
    (hfirst : ∀ j < n, k (p.advance j) = none) (hk : k (p.advance n) = some m) :
    (Regex.repetition 0 none .lazy (.one o test)).run text p k = some m := by
  have ⟨d, hd⟩ : ∃ d, passing text o test p + 1 = n + 1 + d :=
    Nat.exists_eq_add_of_le (Nat.succ_le_succ hn)
  rw [run_lazy, hd, List.range_add, List.range_succ, List.findSome?_eq_some_iff]
  refine ⟨List.range n, n, _, List.append_assoc .., hk, fun j hj => hfirst j ?_⟩
  exact List.mem_range.1 hj

theorem ahead_advance_passing (text : Array Char) (o : Options) (test : CharTest) (p : Point) :
    (p.advance (passing text o test p)).ahead text = (p.ahead text).dropWhile (test.holds o) := by
  rw [Point.ahead_advance, passing, Text.drop_length_takeWhile]

/-- The characters that a repetition can go over pass its test. -/
theorem ahead_advance_of_lt {j : Nat} (hj : j < passing text o test p) :
    ∃ c s, (p.advance j).ahead text = c :: s ∧ test.holds o c = true := by
  cases hs : (p.advance j).ahead text with
  | nil =>
      rw [Point.ahead_advance, List.drop_eq_nil_iff] at hs
      have hle := passing_le text o test p
      omega
  | cons c s =>
      have hc : (p.ahead text)[j]? = some c := by
        rw [← List.head?_drop, ← Point.ahead_advance, hs, List.head?_cons]
      refine ⟨c, s, rfl, Text.of_mem_take_takeWhile (Nat.succ_le_of_lt hj) ?_⟩
      rw [List.take_add_one, hc]
      exact List.mem_append_right _ (List.mem_singleton_self c)

end Exposure.Pattern

namespace Exposure.Pattern

variable {text : Array Char} {r : Regex} {i : Nat}

theorem matchesAt_of_none (h : r.run text { position := i } some = none) :
    r.matchesAt text i = [] := by rw [Regex.matchesAt, h]

theorem matchesAt_of_some {m : Point} (h : r.run text { position := i } some = some m)
    (hm : m.position ≠ i) : r.matchesAt text i = [m] := by
  rw [Regex.matchesAt, h]
  exact if_neg hm

/-- The matches that begin at a position or behind it. -/
def Regex.matchesBehind (text : Array Char) (r : Regex) (i : Nat) : List Point :=
  r.matchesFrom text i (List.range' i (text.size + 1 - i))

theorem findAll_eq (text : Array Char) (r : Regex) : r.findAll text = r.matchesBehind text 0 := by
  rw [Regex.findAll, List.range_eq_range', Regex.matchesBehind, Nat.sub_zero]

/-- A start that no position lies before does not matter. -/
theorem matchesFrom_congr {start start' : Nat} {is : List Nat} (h : ∀ j ∈ is, start ≤ j)
    (h' : ∀ j ∈ is, start' ≤ j) : r.matchesFrom text start is = r.matchesFrom text start' is := by
  induction is with
  | nil => rfl
  | cons i is ih =>
      have hrest := ih (fun j hj => h j (List.mem_cons_of_mem i hj))
        fun j hj => h' j (List.mem_cons_of_mem i hj)
      rw [Regex.matchesFrom, Regex.matchesFrom, if_neg (Nat.not_lt.2 (h i List.mem_cons_self)),
        if_neg (Nat.not_lt.2 (h' i List.mem_cons_self))]
      cases hfound : (r.matchesAt text i).getLast? with
      | none => simp [hfound, hrest]
      | some m => simp [hfound]

theorem matchesFrom_range' {start n : Nat} (hi : i ≤ start) :
    r.matchesFrom text start (List.range' i (n + (start - i))) =
      r.matchesFrom text start (List.range' start n) := by
  induction hd : start - i generalizing i with
  | zero =>
      have hstart : i = start := by omega
      rw [hstart, Nat.add_zero]
  | succ d ih =>
      have hlt : i < start := by omega
      rw [← Nat.add_assoc, List.range'_succ, Regex.matchesFrom, if_pos hlt]
      have hrest := @ih (i + 1) hlt (by omega)
      exact hrest

theorem matchesBehind_size_succ (text : Array Char) (r : Regex) :
    r.matchesBehind text (text.size + 1) = [] := by
  rw [Regex.matchesBehind, Nat.sub_self]
  rfl

theorem matchesBehind_of_none (hi : i ≤ text.size) (h : r.matchesAt text i = []) :
    r.matchesBehind text i = r.matchesBehind text (i + 1) := by
  have hsize : text.size + 1 - i = text.size + 1 - (i + 1) + 1 := by omega
  rw [Regex.matchesBehind, hsize, List.range'_succ, Regex.matchesFrom, if_neg (Nat.lt_irrefl i), h]
  have hbehind : ∀ j ∈ List.range' (i + 1) (text.size + 1 - (i + 1)), i + 1 ≤ j :=
    fun j hj => (List.mem_range'_1.1 hj).1
  exact matchesFrom_congr (fun j hj => Nat.le_of_succ_le (hbehind j hj)) hbehind

theorem matchesBehind_of_match {m : Point} (hi : i < m.position) (hm : m.position ≤ text.size)
    (h : r.matchesAt text i = [m]) :
    r.matchesBehind text i = m :: r.matchesBehind text m.position := by
  have hsize : text.size + 1 - i = text.size + 1 - m.position + (m.position - (i + 1)) + 1 := by
    omega
  rw [Regex.matchesBehind, hsize, List.range'_succ, Regex.matchesFrom, if_neg (Nat.lt_irrefl i), h]
  exact congrArg (m :: ·) (matchesFrom_range' hi)

end Exposure.Pattern
