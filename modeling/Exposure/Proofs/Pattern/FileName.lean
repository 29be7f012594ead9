import Exposure.Config.Basic
import Exposure.Proofs.Pattern.Repetition
import Exposure.Proofs.Text.Upper

/-!
The file names that the default pattern accepts when case does not count: a name of letters, digits
and underscores with the extension in either case, and perhaps a line break behind it.
-/
namespace Exposure.Pattern

open Text

section Case

/-- A lowercase code that no other character shares its lowercase with but those of the twins. -/
structure HasTwins (code : Nat) (twins : List Nat) : Prop where
  nonzero : code ≠ 0
  dotless : code ≠ 304
  kinless : ∀ kin ∈ caseKin, code ∉ kin
  unexpanded : ∀ e ∈ lowerExpansions, e.2.head? ≠ some code
  lower : ∀ r ∈ lowerRuns, r.image? code = none
  twins : ∀ r ∈ lowerRuns, r.image? ((code : Int) - r.delta).toNat = some code →
    ((code : Int) - r.delta).toNat ∈ twins

variable {code : Nat} {twins : List Nat} {c : Char}

instance (code : Nat) (twins : List Nat) : Decidable (HasTwins code twins) :=
  decidable_of_iff ((code ≠ 0 ∧ code ≠ 304) ∧ (∀ kin ∈ caseKin, code ∉ kin) ∧
    (∀ e ∈ lowerExpansions, e.2.head? ≠ some code) ∧ (∀ r ∈ lowerRuns, r.image? code = none) ∧
    ∀ r ∈ lowerRuns, r.image? ((code : Int) - r.delta).toNat = some code →
      ((code : Int) - r.delta).toNat ∈ twins)
    ⟨fun ⟨⟨hnonzero, hdotless⟩, hkinless, hunexpanded, hlower, htwins⟩ =>
      ⟨hnonzero, hdotless, hkinless, hunexpanded, hlower, htwins⟩,
    fun h => ⟨⟨h.nonzero, h.dotless⟩, h.kinless, h.unexpanded, h.lower, h.twins⟩⟩

theorem hasTwins_dot : HasTwins 46 [] := by decide +kernel

theorem hasTwins_p : HasTwins 112 [80] := by decide +kernel

theorem hasTwins_y : HasTwins 121 [89] := by decide +kernel

theorem toNat_ofNat {n : Nat} (h : (Char.ofNat n).toNat = code) (hcode : code ≠ 0) : n = code := by
  by_cases hv : n.isValidChar
  · rwa [Char.ofNat, dif_pos hv] at h
  · rw [Char.ofNat, dif_neg hv] at h
    exact absurd h.symm hcode

theorem HasTwins.of_simpleLower (h : HasTwins code twins)
    (hc : (simpleLower false c).toNat = code) : c.toNat = code ∨ c.toNat ∈ twins := by
  simp only [simpleLower, Bool.false_eq_true, if_false, lowerChar, caseImage] at hc
  cases hrun : lowerRuns.findSome? (·.image? c.toNat) with
  | some n =>
      simp only [hrun, List.headD_cons] at hc
      obtain rfl := toNat_ofNat hc h.nonzero
      obtain ⟨r, hr, himage⟩ := List.exists_of_findSome?_eq_some hrun
      obtain ⟨-, -, -, hsum⟩ := CaseRun.image?_eq_some himage
      have hback : ((n : Int) - r.delta).toNat = c.toNat := by
        have := h.nonzero
        omega
      have htwin := h.twins r hr
      rw [hback] at htwin
      exact .inr (htwin himage)
  | none =>
      simp only [hrun] at hc
      cases hexpansion : lowerExpansions.lookup c.toNat with
      | none =>
          simp only [hexpansion, List.headD_cons] at hc
          exact .inl hc
      | some ns =>
          simp only [hexpansion] at hc
          cases ns with
          | nil => exact .inl hc
          | cons n ns =>
              obtain rfl := toNat_ofNat hc h.nonzero
              obtain ⟨l₁, l₂, hsplit, -⟩ := List.lookup_eq_some_iff.1 hexpansion
              have hmem : (c.toNat, n :: ns) ∈ lowerExpansions :=
                hsplit ▸ List.mem_append_right _ List.mem_cons_self
              exact absurd rfl (h.unexpanded _ hmem)

theorem HasTwins.eq_of_withLower {lower : Nat} (h : HasTwins code twins)
    (hmem : code ∈ withLower false lower) : code = lower := by
  simp only [withLower, Bool.false_eq_true, if_false, List.mem_cons, List.mem_append,
    List.mem_filterMap] at hmem
  obtain (heq | hdotted) | ⟨r, hr, hpast⟩ := hmem
  · exact heq
  · split at hdotted
    · exact absurd (List.mem_singleton.1 hdotted) h.dotless
    · cases hdotted
  · split at hpast
    · rename_i himage
      cases hpast
      exact absurd himage.2 (by rw [h.lower r hr]; nofun)
    · cases hpast

theorem HasTwins.eq_of_kinOf {lower : Nat} (h : HasTwins code twins)
    (hmem : code ∈ kinOf false lower) : code = lower := by
  simp only [kinOf, Bool.false_eq_true, if_false] at hmem
  split at hmem
  · rename_i kin hkin
    exact absurd hmem (h.kinless kin (List.mem_of_find?_eq_some hkin))
  · exact List.mem_singleton.1 hmem

/-- A character that counts as the one of the code is this one or one of its twins. -/
theorem HasTwins.of_holds (h : HasTwins code twins)
    (hc : (CharTest.char code).holds { ignoreCase := true } c = true) :
    c.toNat = code ∨ c.toNat ∈ twins := by
  simp only [CharTest.holds, if_true, List.contains_iff_mem, caseVariants, List.mem_flatMap] at hc
  obtain ⟨lower, hkin, hlower⟩ := hc
  obtain rfl := h.eq_of_withLower hlower
  exact h.of_simpleLower (h.eq_of_kinOf hkin).symm

theorem eq_ofNat_toNat {n : Nat} (h : c.toNat = n) : c = Char.ofNat n := by
  rw [← h, Char.ofNat_toNat]

end Case

section Match

variable {text : Array Char} {o : Options} {test : CharTest} {p : Point} {k : Rest}

theorem run_one_isSome : ((Regex.one o test).run text p k).isSome = true ↔
    ∃ c s, p.ahead text = c :: s ∧ test.holds o c = true ∧ (k (p.advance 1)).isSome = true := by
  cases hs : p.ahead text with
  | nil => simp [run_one_nil hs]
  | cons c s =>
      rw [run_one_cons hs]
      split <;> simp_all

theorem ahead_next {c : Char} {s : List Char} (h : p.ahead text = c :: s) :
    (p.advance 1).ahead text = s := by
  rw [Point.ahead_advance, h, List.drop_one, List.tail_cons]

theorem ahead_past {xs ys : List Char} (h : p.ahead text = xs ++ ys) :
    (p.advance xs.length).ahead text = ys := by
  rw [Point.ahead_advance, h, List.drop_left]

theorem advance_position_le {c : Char} {s : List Char} (h : p.ahead text = c :: s) :
    (p.advance 1).position ≤ text.size := by
  have hlength := length_ahead text p
  rw [h, List.length_cons] at hlength
  rw [Point.advance]
  dsimp only
  omega

theorem run_seq (a b : Regex) :
    (Regex.seq a b).run text p k = a.run text p fun q => b.run text q k := rfl

theorem run_anchor_isSome {kind : Anchor} :
    ((Regex.anchor o kind).run text p k).isSome = true ↔
      kind.holds text o p.position = true ∧ (k p).isSome = true := by
  rw [Regex.run]
  split <;> simp_all

theorem run_greedy_isSome :
    ((Regex.repetition 0 none .greedy (.one o test)).run text p k).isSome = true ↔
      ∃ xs ys, p.ahead text = xs ++ ys ∧ (∀ c ∈ xs, test.holds o c = true) ∧
        (k (p.advance xs.length)).isSome = true := by
  rw [run_greedy, List.findSome?_isSome_iff]
  constructor
  · rintro ⟨j, hj, hk⟩
    have hj : j ≤ passing text o test p := Nat.le_of_lt_succ (by simpa using hj)
    have hlength : ((p.ahead text).take j).length = j := by
      rw [List.length_take]
      exact Nat.min_eq_left (Nat.le_trans hj (passing_le text o test p))
    exact ⟨(p.ahead text).take j, (p.ahead text).drop j, (List.take_append_drop _ _).symm,
      fun c hc => Text.of_mem_take_takeWhile hj hc, by rwa [hlength]⟩
  · rintro ⟨xs, ys, hahead, hxs, hk⟩
    refine ⟨xs.length, ?_, hk⟩
    have hle : xs.length ≤ passing text o test p := by
      rw [passing, hahead]
      exact Text.length_le_takeWhile_append hxs ys
    simpa using Nat.lt_succ_of_le hle

theorem lineEnd_holds (ho : o.multiline = false) (hp : p.position ≤ text.size) :
    Anchor.lineEnd.holds text o p.position = true ↔
      p.ahead text = [] ∨ p.ahead text = ['\n'] := by
  have hlength := length_ahead text p
  simp only [Anchor.holds, getElem?_position, ho, Bool.false_or, Bool.or_eq_true, Bool.and_eq_true,
    decide_eq_true_eq]
  cases hs : p.ahead text with
  | nil =>
      rw [hs, List.length_nil] at hlength
      simp only [List.head?_nil, true_or, iff_true]
      exact .inl (by omega)
  | cons c s =>
      rw [hs, List.length_cons] at hlength
      have hend : p.position + 1 = text.size ↔ s = [] := by
        rw [← List.length_eq_zero_iff]
        omega
      have hne : p.position ≠ text.size := by omega
      simp [hend, hne]

end Match

/-- How the default pattern is read. -/
def fileNameOptions : Options := { ignoreCase := true }

def fileNameStart : CharTest := .set false [.range 65 90, .range 97 122, .range 95 95]

def fileNamePart : CharTest :=
  .set false [.range 65 90, .range 97 122, .range 95 95, .range 48 57]

def fileNameRegex : Regex :=
  .seq (.anchor fileNameOptions .lineStart) (.seq (.one fileNameOptions fileNameStart)
    (.seq (.repetition 0 none .greedy (.one fileNameOptions fileNamePart))
      (.seq (.one fileNameOptions (.char 46)) (.seq (.one fileNameOptions (.char 112))
        (.seq (.one fileNameOptions (.char 121)) (.anchor fileNameOptions .lineEnd))))))

theorem parse?_defaultFilePattern :
    parse? { ignoreCase := true } defaultFilePattern = some fileNameRegex := by
  decide +kernel

/-- The characters are those of a name that the pattern describes. -/
def FitsFileName (s : List Char) : Prop :=
  ∃ start parts dot p y behind, s = start :: (parts ++ dot :: p :: y :: behind) ∧
    fileNameStart.holds fileNameOptions start = true ∧
    (∀ c ∈ parts, fileNamePart.holds fileNameOptions c = true) ∧
    (CharTest.char 46).holds fileNameOptions dot = true ∧
    (CharTest.char 112).holds fileNameOptions p = true ∧
    (CharTest.char 121).holds fileNameOptions y = true ∧ (behind = [] ∨ behind = ['\n'])

theorem run_fileNameRegex_isSome {text : Array Char} {i : Nat} :
    (fileNameRegex.run text { position := i } some).isSome = true ↔
      i = 0 ∧ FitsFileName text.toList := by
  simp only [fileNameRegex, run_seq, run_anchor_isSome, run_one_isSome, run_greedy_isSome]
  constructor
  · rintro ⟨hi, start, s, hs, hstart, parts, t, ht, hparts, dot, u, hu, hdot, p, v, hv, hp, y, w,
      hw, hy, hend, -⟩
    have hi : i = 0 := by simpa [Anchor.holds, fileNameOptions] using hi
    subst hi
    rw [ahead_next hs] at ht
    rw [lineEnd_holds rfl (advance_position_le hw), ahead_next hw] at hend
    rw [ahead_next hv] at hw
    rw [ahead_next hu] at hv
    rw [ahead_past ((ahead_next hs).trans ht)] at hu
    subst ht hu hv hw
    exact ⟨rfl, start, parts, dot, p, y, w, hs, hstart, hparts, hdot, hp, hy, hend⟩
  · rintro ⟨rfl, start, parts, dot, p, y, behind, htext, hstart, hparts, hdot, hp, hy, hbehind⟩
    have hs : Point.ahead text { position := 0 } = start :: (parts ++ dot :: p :: y :: behind) :=
      htext
    have hu := ahead_past (ahead_next hs)
    have hv := ahead_next hu
    have hw := ahead_next hv
    refine ⟨rfl, start, _, hs, hstart, parts, _, ahead_next hs, hparts, dot, _, hu, hdot, p, _,
      hv, hp, y, _, hw, hy, ?_, rfl⟩
    rwa [lineEnd_holds rfl (advance_position_le hw), ahead_next hw]

theorem occursIn_fileNameRegex {name : String} :
    fileNameRegex.occursIn name = true ↔ FitsFileName name.toList := by
  simp only [Regex.occursIn, List.any_eq_true, List.mem_range, run_fileNameRegex_isSome]
  constructor
  · rintro ⟨i, -, -, h⟩
    exact h
  · exact fun h => ⟨0, Nat.succ_pos _, rfl, h⟩

/-- The extensions of accepted names. -/
def fileExtensions : List String := ["py", "pY", "Py", "PY"].flatMap fun e => [e, e ++ "\n"]

theorem fileNameStart_stops :
    (['.', '/', '\\'].all fun c => !fileNameStart.holds fileNameOptions c) = true := by
  decide +kernel

theorem fileNamePart_stops :
    (['.', '/', '\\'].all fun c => !fileNamePart.holds fileNameOptions c) = true := by
  decide +kernel

/-- An accepted name is a stem, without dots and slashes, with one of the extensions. -/
theorem FitsFileName.exists_stem {name : String} (h : FitsFileName name.toList) :
    ∃ stem, ∃ extension ∈ fileExtensions, name = stem ++ "." ++ extension ∧
      ∀ c ∈ ['.', '/', '\\'], c ∉ stem.toList := by
  obtain ⟨start, parts, dot, p, y, behind, hname, hstart, hparts, hdot, hp, hy, hbehind⟩ := h
  have hdot : dot = '.' := eq_ofNat_toNat (by simpa using hasTwins_dot.of_holds hdot)
  have hp : p = 'p' ∨ p = 'P' :=
    (hasTwins_p.of_holds hp).imp eq_ofNat_toNat fun h => eq_ofNat_toNat (List.mem_singleton.1 h)
  have hy : y = 'y' ∨ y = 'Y' :=
    (hasTwins_y.of_holds hy).imp eq_ofNat_toNat fun h => eq_ofNat_toNat (List.mem_singleton.1 h)
  refine ⟨String.ofList (start :: parts), String.ofList (p :: y :: behind), ?_, ?_, fun c hc => ?_⟩
  · rcases hp with rfl | rfl <;> rcases hy with rfl | rfl <;> rcases hbehind with rfl | rfl <;>
      decide
  · apply String.toList_inj.1
    simp [hname, hdot]
  · have hstartStops := List.all_eq_true.1 fileNameStart_stops c hc
    have hpartStops := List.all_eq_true.1 fileNamePart_stops c hc
    rw [String.toList_ofList, List.mem_cons, not_or]
    refine ⟨?_, fun hmem => ?_⟩
    · rintro rfl
      simp [hstart] at hstartStops
    · simp [hparts c hmem] at hpartStops

end Exposure.Pattern
