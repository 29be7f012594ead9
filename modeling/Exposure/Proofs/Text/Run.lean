import Exposure.Text.Split

/-!
Runs of characters of one kind: where a run stops, and what of it lies on the first line.
-/
namespace Exposure.Text

variable {p q : Char → Bool} {xs ys : List Char}

theorem dropWhile_of_stop (hys : ∀ c, ys.head? = some c → p c = false) : ys.dropWhile p = ys := by
  cases ys with
  | nil => rfl
  | cons c ys => exact List.dropWhile_cons_of_neg (by simp [hys c rfl])

theorem takeWhile_of_stop (hys : ∀ c, ys.head? = some c → p c = false) : ys.takeWhile p = [] := by
  cases ys with
  | nil => rfl
  | cons c ys => exact List.takeWhile_cons_of_neg (by simp [hys c rfl])

theorem dropWhile_append_stop (hxs : ∀ c ∈ xs, p c = true)
    (hys : ∀ c, ys.head? = some c → p c = false) : (xs ++ ys).dropWhile p = ys := by
  rw [List.dropWhile_append_of_pos hxs, dropWhile_of_stop hys]

theorem takeWhile_append_stop (hxs : ∀ c ∈ xs, p c = true)
    (hys : ∀ c, ys.head? = some c → p c = false) : (xs ++ ys).takeWhile p = xs := by
  rw [List.takeWhile_append_of_pos hxs, takeWhile_of_stop hys, List.append_nil]

theorem takeWhile_of_all (hxs : ∀ c ∈ xs, p c = true) : xs.takeWhile p = xs := by
  have hstop := @takeWhile_append_stop p xs [] hxs (by rintro _ ⟨⟩)
  rwa [List.append_nil] at hstop

theorem length_le_takeWhile_append (hxs : ∀ c ∈ xs, p c = true) (ys : List Char) :
    xs.length ≤ ((xs ++ ys).takeWhile p).length := by
  rw [List.takeWhile_append_of_pos hxs, List.length_append]
  exact Nat.le_add_right _ _

theorem takeWhile_takeWhile_of_imp (himp : ∀ c, p c = true → q c = true) (s : List Char) :
    (s.takeWhile q).takeWhile p = s.takeWhile p := by
  induction s with
  | nil => rfl
  | cons c s ih =>
      cases hp : p c with
      | true => simp [himp c hp, hp, ih]
      | false => cases hq : q c <;> simp [hq, hp]

theorem takeWhile_drop {n : Nat} {s : List Char} (hn : n ≤ (s.takeWhile p).length) :
    (s.drop n).takeWhile p = (s.takeWhile p).drop n := by
  induction s generalizing n with
  | nil => simp
  | cons c s ih =>
      cases hp : p c with
      | false =>
          have hn : n = 0 := by simpa [hp] using hn
          simp [hn]
      | true =>
          cases n with
          | zero => rfl
          | succ n =>
              rw [List.takeWhile_cons_of_pos hp] at hn ⊢
              exact ih (Nat.le_of_succ_le_succ hn)

theorem dropWhile_takeWhile_of_imp (himp : ∀ c, p c = true → q c = true) (s : List Char) :
    (s.takeWhile q).dropWhile p = (s.dropWhile p).takeWhile q := by
  induction s with
  | nil => rfl
  | cons c s ih =>
      cases hp : p c with
      | true => simp [himp c hp, hp, ih]
      | false => cases hq : q c <;> simp [hq, hp]

/-- The first character behind a run is met in the whole text if it is met in a front part. -/
theorem dropWhile_of_dropWhile_takeWhile {s r : List Char} {c : Char}
    (h : (s.takeWhile q).dropWhile p = c :: r) :
    ∃ r', s.dropWhile p = c :: r' ∧ r = r'.takeWhile q := by
  induction s with
  | nil => simp at h
  | cons d s ih =>
      cases hq : q d with
      | false => simp [hq] at h
      | true =>
          cases hp : p d with
          | true => simpa [hp] using ih (by simpa [hq, hp] using h)
          | false =>
              simp only [List.takeWhile_cons_of_pos hq, List.dropWhile_cons, hp] at h
              cases h
              exact ⟨s, by simp [hp], rfl⟩

/-- A text up to its first line break. -/
def firstLine (s : List Char) : List Char := s.takeWhile (· ≠ '\n')

/-- The lines of a text behind the first one. -/
def furtherLines (s : List Char) : List (List Char) :=
  match s.dropWhile (· ≠ '\n') with
  | [] => []
  | _ :: r => splitAt '\n' r

theorem splitAt_newline (s : List Char) :
    splitAt '\n' s = firstLine s :: furtherLines s := by
  induction s with
  | nil => rfl
  | cons c s ih =>
      by_cases hc : c = '\n'
      · simp [splitAt, firstLine, furtherLines, hc]
      · simp only [splitAt, hc, if_false, ih]
        simp [firstLine, furtherLines, hc]

@[simp] theorem firstLine_nil : firstLine [] = [] := rfl

@[simp] theorem firstLine_newline (s : List Char) : firstLine ('\n' :: s) = [] := rfl

theorem firstLine_cons {c : Char} (hc : c ≠ '\n') (s : List Char) :
    firstLine (c :: s) = c :: firstLine s := by simp [firstLine, hc]

theorem furtherLines_cons {c : Char} (hc : c ≠ '\n') (s : List Char) :
    furtherLines (c :: s) = furtherLines s := by simp [furtherLines, hc]

theorem furtherLines_append {u : List Char} (hu : '\n' ∉ u) (s : List Char) :
    furtherLines (u ++ s) = furtherLines s := by
  induction u with
  | nil => rfl
  | cons c u ih =>
      have hc : c ≠ '\n' := fun h => hu (h ▸ List.mem_cons_self)
      rw [List.cons_append, furtherLines_cons hc, ih fun h => hu (List.mem_cons_of_mem c h)]

theorem firstLine_append {u : List Char} (hu : '\n' ∉ u) (s : List Char) :
    firstLine (u ++ s) = u ++ firstLine s :=
  List.takeWhile_append_of_pos fun _ hc => decide_eq_true fun h => hu (h ▸ hc)

theorem newline_notMem_firstLine (s : List Char) : '\n' ∉ firstLine s := fun h => by
  simpa using List.all_eq_true.1 List.all_takeWhile _ h

theorem firstLine_of_notMem {s : List Char} (h : '\n' ∉ s) : firstLine s = s :=
  takeWhile_of_all fun _ hc => decide_eq_true fun heq => h (heq ▸ hc)

theorem firstLine_append_dropWhile (s : List Char) :
    firstLine s ++ s.dropWhile (· ≠ '\n') = s := List.takeWhile_append_dropWhile

/-- What is on the first line stands before any end of a line. -/
theorem mem_take_of_mem_firstLine {s : List Char} {n : Nat} {c : Char}
    (hend : firstLine (s.drop n) = []) (hc : c ∈ firstLine s) : c ∈ s.take n := by
  induction s generalizing n with
  | nil => cases hc
  | cons d s ih =>
      by_cases hd : d = '\n'
      · simp [hd] at hc
      · rw [firstLine_cons hd] at hc
        cases n with
        | zero => simp [firstLine_cons hd] at hend
        | succ n =>
            rw [List.take_succ_cons, List.mem_cons]
            exact (List.mem_cons.1 hc).imp id (ih hend)

theorem of_mem_take_takeWhile {s : List Char} {n : Nat} (hn : n ≤ (s.takeWhile p).length)
    {c : Char} (hc : c ∈ s.take n) : p c = true := by
  rw [← @List.takeWhile_append_dropWhile _ p s, List.take_append_of_le_length hn] at hc
  exact List.all_eq_true.1 List.all_takeWhile c (List.mem_of_mem_take hc)

theorem take_length_takeWhile (s : List Char) :
    s.take (s.takeWhile p).length = s.takeWhile p := by
  have htake := @List.take_left _ (s.takeWhile p) (s.dropWhile p)
  rwa [List.takeWhile_append_dropWhile] at htake

theorem drop_length_takeWhile (s : List Char) :
    s.drop (s.takeWhile p).length = s.dropWhile p := by
  have hdrop := @List.drop_left _ (s.takeWhile p) (s.dropWhile p)
  rwa [List.takeWhile_append_dropWhile] at hdrop

end Exposure.Text
