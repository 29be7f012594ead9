import Exposure.Text.Split

/-!
Cutting and joining are inverse to each other on parts without the separator. So parts of this
kind can be told from their joined text.
-/
namespace Exposure.Text

theorem sep_notMem_of_mem_splitAt {sep : Char} {s part : List Char}
    (h : part ∈ splitAt sep s) : sep ∉ part := by
  induction s generalizing part with
  | nil =>
      have hp : part = [] := by simpa [splitAt] using h
      simp [hp]
  | cons c r ih =>
      by_cases hc : c = sep
      · simp only [splitAt, hc, if_true, List.mem_cons] at h
        rcases h with rfl | h
        · simp
        · exact ih h
      · cases hr : splitAt sep r with
        | nil => exact absurd hr (splitAt_ne_nil sep r)
        | cons p ps =>
            simp only [splitAt, hc, if_false, hr, List.mem_cons] at h
            have hp : sep ∉ p := ih (by simp [hr])
            rcases h with rfl | h
            · simp [hp, Ne.symm hc]
            · exact ih (by simp [hr, h])

theorem mem_of_mem_splitAt {sep c : Char} {s part : List Char}
    (h : part ∈ splitAt sep s) (hc : c ∈ part) : c ∈ s := by
  induction s generalizing part with
  | nil =>
      have hp : part = [] := by simpa [splitAt] using h
      simp [hp] at hc
  | cons d r ih =>
      by_cases hd : d = sep
      · simp only [splitAt, hd, if_true, List.mem_cons] at h
        rcases h with rfl | h
        · simp at hc
        · exact List.mem_cons_of_mem _ (ih h hc)
      · cases hr : splitAt sep r with
        | nil => exact absurd hr (splitAt_ne_nil sep r)
        | cons p ps =>
            simp only [splitAt, hd, if_false, hr, List.mem_cons] at h
            rcases h with rfl | h
            · rcases List.mem_cons.1 hc with rfl | hc
              · simp
              · exact List.mem_cons_of_mem _ (ih (by simp [hr]) hc)
            · exact List.mem_cons_of_mem _ (ih (by simp [hr, h]) hc)

theorem splitAt_of_notMem {sep : Char} {s : List Char} (h : sep ∉ s) : splitAt sep s = [s] := by
  induction s with
  | nil => rfl
  | cons c r ih =>
      have hc : c ≠ sep := fun e => h (by simp [e])
      have hr : sep ∉ r := fun e => h (by simp [e])
      rw [splitAt, if_neg hc, ih hr]

theorem splitAt_append_cons (sep : Char) (a b : List Char) :
    splitAt sep (a ++ sep :: b) = splitAt sep a ++ splitAt sep b := by
  induction a with
  | nil => simp [splitAt]
  | cons c a ih =>
      by_cases hc : c = sep
      · simp [splitAt, hc, ih]
      · cases ha : splitAt sep a with
        | nil => exact absurd ha (splitAt_ne_nil sep a)
        | cons part parts => simp [splitAt, hc, ih, ha]

theorem splitAt_append {sep : Char} {s : List Char} (h : sep ∉ s) (r : List Char) :
    splitAt sep (s ++ sep :: r) = s :: splitAt sep r := by
  rw [splitAt_append_cons, splitAt_of_notMem h, List.singleton_append]

theorem splitAt_joinWith {sep : Char} {parts : List (List Char)} (hne : parts ≠ [])
    (h : ∀ p ∈ parts, sep ∉ p) : splitAt sep (joinWith [sep] parts) = parts := by
  induction parts with
  | nil => exact absurd rfl hne
  | cons p ps ih =>
      have hp : sep ∉ p := h p (by simp)
      cases ps with
      | nil => exact splitAt_of_notMem hp
      | cons q qs =>
          have hps : ∀ x ∈ q :: qs, sep ∉ x := fun x hx => h x (by simp [hx])
          simp only [joinWith, List.append_assoc, List.singleton_append]
          rw [splitAt_append hp, ih (by simp) hps]

theorem append_of_cutFirst {sep s a b : List Char} (h : cutFirst sep s = some (a, b)) :
    s = a ++ (sep ++ b) := by
  induction s generalizing a b with
  | nil =>
      rw [cutFirst] at h
      split at h
      · rename_i hsep
        cases h
        rw [hsep]
        rfl
      · cases h
  | cons c r ih =>
      rw [cutFirst] at h
      split at h
      · rename_i hprefix
        cases h
        exact (List.prefix_iff_eq_append.1 (List.isPrefixOf_iff_prefix.1 hprefix)).symm
      · obtain ⟨p, hp, heq⟩ := Option.map_eq_some_iff.1 h
        cases heq
        rw [ih hp]
        rfl

theorem cutFirst_eq_none_iff {sep s : List Char} : cutFirst sep s = none ↔ ¬sep <:+: s := by
  induction s with
  | nil => simp [cutFirst]
  | cons c r ih =>
      rw [cutFirst, List.infix_cons_iff, ← List.isPrefixOf_iff_prefix, not_or]
      split
      · rename_i hbegins
        simp [hbegins]
      · rename_i hbegins
        rw [Option.map_eq_none_iff, ih]
        simp [hbegins]

/-- Cutting finds the parts of joined text again just if no separator begins before the place where
they were joined. -/
theorem cutFirst_append_iff {sep : List Char} (hsep : sep ≠ []) (s r : List Char) :
    cutFirst sep (s ++ (sep ++ r)) = some (s, r) ↔ ¬sep <:+: s ++ sep.dropLast := by
  have hlength : sep.dropLast.length < sep.length := by
    rw [List.length_dropLast]
    exact Nat.sub_lt (List.length_pos_iff.2 hsep) Nat.one_pos
  induction s with
  | nil =>
      obtain ⟨c, t, rfl⟩ := List.exists_cons_of_ne_nil hsep
      have hshort : ¬c :: t <:+: [] ++ (c :: t).dropLast := fun h =>
        absurd h.length_le (Nat.not_le.2 hlength)
      have hprefix : (c :: t).isPrefixOf (c :: (t ++ r)) = true :=
        List.isPrefixOf_iff_prefix.2 (List.prefix_append (c :: t) r)
      simp only [List.nil_append, List.cons_append, cutFirst, hprefix, if_true] at hshort ⊢
      simp [hshort]
  | cons c s ih =>
      -- A separator that begins at the head ends before the last character of the one behind `s`.
      have hhead : sep <+: c :: (s ++ (sep ++ r)) ↔ sep <+: c :: (s ++ sep.dropLast) := by
        have hinner : c :: (s ++ sep.dropLast) <+: c :: (s ++ (sep ++ r)) := by
          refine List.cons_prefix_cons.2 ⟨rfl, (List.prefix_append_right_inj s).2 ?_⟩
          exact (List.dropLast_prefix sep).trans (List.prefix_append sep r)
        refine ⟨fun h => List.prefix_of_prefix_length_le h hinner ?_, fun h => h.trans hinner⟩
        rw [List.length_cons, List.length_append, List.length_dropLast]
        omega
      rw [List.cons_append, cutFirst, List.cons_append, List.infix_cons_iff, ← hhead,
        ← List.isPrefixOf_iff_prefix, not_or]
      split
      · rename_i hbegins
        simp [hbegins]
      · rename_i hbegins
        simpa [hbegins] using ih

theorem splitString_joinStrings {sep : Char} {parts : List String} (hne : parts ≠ [])
    (h : ∀ t ∈ parts, sep ∉ t.toList) :
    splitString sep (joinStrings (String.singleton sep) parts) = parts := by
  have hcut : splitAt sep (joinWith [sep] (parts.map String.toList)) = parts.map String.toList :=
    splitAt_joinWith (by simpa using hne) (by simpa using h)
  rw [splitString, joinStrings, String.toList_ofList, String.toList_singleton, hcut, List.map_map]
  simp

theorem splitAt_joinWith_concat {sep : Char} {parts : List (List Char)}
    (h : ∀ p ∈ parts, sep ∉ p) (last : List Char) :
    splitAt sep (joinWith [sep] (parts ++ [last])) = parts ++ splitAt sep last := by
  induction parts with
  | nil => rfl
  | cons p ps ih =>
      have hps : ∀ q ∈ ps, sep ∉ q := fun q hq => h q (List.mem_cons_of_mem _ hq)
      have hjoin : joinWith [sep] (p :: (ps ++ [last])) =
          p ++ sep :: joinWith [sep] (ps ++ [last]) := by
        cases ps <;> simp [joinWith]
      rw [List.cons_append, hjoin, splitAt_append (h p List.mem_cons_self), ih hps,
        List.cons_append]

theorem splitString_joinStrings_concat {sep : Char} {parts : List String}
    (h : ∀ p ∈ parts, sep ∉ p.toList) (last : String) :
    splitString sep (joinStrings (String.singleton sep) (parts ++ [last])) =
      parts ++ splitString sep last := by
  have hparts : ∀ p ∈ parts.map String.toList, sep ∉ p := by simpa using h
  have hcut := splitAt_joinWith_concat hparts last.toList
  rw [splitString, joinStrings, List.map_append, String.toList_ofList, String.toList_singleton]
  rw [List.map_singleton, hcut, List.map_append, List.map_map]
  simp [splitString]

theorem joinWith_concat {sep : List Char} {parts : List (List Char)} (hne : parts ≠ [])
    (last : List Char) : joinWith sep (parts ++ [last]) = joinWith sep parts ++ sep ++ last := by
  induction parts with
  | nil => exact absurd rfl hne
  | cons p ps ih =>
      cases ps with
      | nil => rfl
      | cons q qs =>
          have hrest := ih (List.cons_ne_nil q qs)
          rw [List.cons_append] at hrest
          simp only [List.cons_append, joinWith, hrest, List.append_assoc]

theorem joinStrings_concat {sep : String} {parts : List String} (hne : parts ≠ [])
    (last : String) : joinStrings sep (parts ++ [last]) = joinStrings sep parts ++ sep ++ last := by
  apply String.toList_inj.1
  simp [joinStrings, joinWith_concat, hne]

theorem length_splitString_eq_one_iff {sep : Char} {s : String} :
    (splitString sep s).length = 1 ↔ sep ∉ s.toList := by
  rw [splitString, List.length_map]
  constructor
  · intro h
    obtain ⟨part, hpart⟩ := List.length_eq_one_iff.1 h
    have hs : joinWith [sep] [part] = s.toList := by rw [← hpart, joinWith_splitAt]
    rw [← hs]
    exact sep_notMem_of_mem_splitAt (hpart ▸ List.mem_singleton_self part)
  · intro h
    rw [splitAt_of_notMem h, List.length_singleton]

/-- What comes after a separator and has none in it comes after the last one. -/
theorem cutLast_append {sep : Char} {s : List Char} (h : sep ∉ s) (r : List Char) :
    cutLast sep (r ++ sep :: s) = some (r, s) := by
  have hpos : ∀ c ∈ s.reverse, decide (c ≠ sep) = true := fun c hc =>
    decide_eq_true fun heq => h (heq ▸ List.mem_reverse.1 hc)
  have hreverse : (r ++ sep :: s).reverse = s.reverse ++ sep :: r.reverse := by simp
  rw [cutLast, hreverse, List.takeWhile_append_of_pos hpos, List.dropWhile_append_of_pos hpos]
  simp

/-- Joined text tells its parts apart as long as they hold no separator. -/
theorem joinStrings_inj (sep : Char) {p q : List String} (hp : p ≠ []) (hq : q ≠ [])
    (hps : ∀ t ∈ p, sep ∉ t.toList) (hqs : ∀ t ∈ q, sep ∉ t.toList)
    (h : joinStrings (String.singleton sep) p = joinStrings (String.singleton sep) q) :
    p = q := by
  rw [← splitString_joinStrings hp hps, h, splitString_joinStrings hq hqs]

theorem mem_of_mem_joinWith {sep : List Char} {parts : List (List Char)} {c : Char}
    (h : c ∈ joinWith sep parts) : c ∈ sep ∨ ∃ p ∈ parts, c ∈ p := by
  induction parts with
  | nil => cases h
  | cons p ps ih =>
      cases ps with
      | nil => exact .inr ⟨p, by simp, h⟩
      | cons q qs =>
          rw [joinWith, List.append_assoc, List.mem_append, List.mem_append] at h
          rcases h with h | h | h
          · exact .inr ⟨p, by simp, h⟩
          · exact .inl h
          · obtain hsep | ⟨r, hr, hc⟩ := ih h
            · exact .inl hsep
            · exact .inr ⟨r, List.mem_cons_of_mem _ hr, hc⟩

end Exposure.Text
