import Exposure.Text.Case

/-!
Uppercase text stays as it is. The tables are checked run against run: no run or expansion leads
to a code point that some run or expansion moves again. The checks compare natural numbers only,
so that the kernel gets through all pairs.
-/
namespace Exposure.Text

namespace CaseRun

def low (r : CaseRun) : Nat := ((r.first : Int) + r.delta).toNat

def high (r : CaseRun) : Nat := ((r.last : Int) + r.delta).toNat

/-- The code point is none of the run's. -/
def misses (r : CaseRun) (n : Nat) : Bool :=
  Nat.blt n r.first || Nat.blt r.last n || Nat.blt 0 ((n - r.first) % r.step)

/-- No image under the run lies in the other run, by place or by parity. -/
def leadsOutOf (r s : CaseRun) : Bool :=
  Nat.blt r.high s.first || Nat.blt s.last r.low ||
    (Nat.beq r.step 2 || Nat.beq r.first r.last) && Nat.beq s.step 2 &&
      Nat.beq ((r.low + s.first) % 2) 1

/-- The code point is no image under the run. -/
def leadsPast (r : CaseRun) (n : Nat) : Bool := Nat.blt n r.low || Nat.blt r.high n

theorem image?_eq_some {r : CaseRun} {n m : Nat} (h : r.image? n = some m) :
    r.first ≤ n ∧ n ≤ r.last ∧ (n - r.first) % r.step = 0 ∧ m = ((n : Int) + r.delta).toNat := by
  unfold image? at h
  split at h
  · rename_i hr
    exact ⟨hr.1, hr.2.1, hr.2.2, (Option.some.inj h).symm⟩
  · cases h

theorem image?_eq_none_of_misses {r : CaseRun} {n : Nat} (h : r.misses n = true) :
    r.image? n = none := by
  simp only [misses, Bool.or_eq_true, Nat.blt_eq] at h
  unfold image?
  rw [if_neg]
  rintro ⟨hlo, hhi, hstep⟩
  omega

theorem image?_eq_none_of_leadsOutOf {r s : CaseRun} {n m : Nat} (hr : 0 ≤ r.first + r.delta)
    (h : r.leadsOutOf s = true) (hn : r.image? n = some m) : s.image? m = none := by
  obtain ⟨hlo, hhi, hstep, rfl⟩ := image?_eq_some hn
  cases hs : s.image? ((n : Int) + r.delta).toNat with
  | none => rfl
  | some k =>
      exfalso
      obtain ⟨slo, shi, sstep, -⟩ := image?_eq_some hs
      simp only [leadsOutOf, low, high, Bool.or_eq_true, Bool.and_eq_true, Nat.blt_eq,
        Nat.beq_eq] at h
      rcases h with (h | h) | ⟨⟨h, hs2⟩, hpar⟩
      · omega
      · omega
      · rw [hs2] at sstep
        rcases h with h | h
        · rw [h] at hstep
          omega
        · omega

theorem ne_of_leadsPast {r : CaseRun} {n m k : Nat} (h : r.leadsPast k = true)
    (hn : r.image? n = some m) : k ≠ m := by
  obtain ⟨hlo, hhi, -, rfl⟩ := image?_eq_some hn
  simp only [leadsPast, low, high, Bool.or_eq_true, Nat.blt_eq] at h
  omega

end CaseRun

theorem upperRuns_start : (upperRuns.all fun r => decide (0 ≤ r.first + r.delta)) = true := by
  decide +kernel

theorem upperRuns_leadsOutOf : (upperRuns.all fun r => upperRuns.all r.leadsOutOf) = true := by
  decide +kernel

theorem upperRuns_leadsPast :
    (upperRuns.all fun r => upperExpansions.all fun e => r.leadsPast e.1) = true := by
  decide +kernel

theorem upperExpansions_misses :
    (upperExpansions.all fun e => e.2.all fun m => upperRuns.all (·.misses m)) = true := by
  decide +kernel

theorem upperExpansions_ne :
    (upperExpansions.all fun e => e.2.all fun m => upperExpansions.all fun f => f.1 != m) =
      true := by
  decide +kernel

/-- Neither a run nor an expansion has the code point. -/
def IsUpperCode (n : Nat) : Prop :=
  (∀ r ∈ upperRuns, r.image? n = none) ∧ ∀ e ∈ upperExpansions, e.1 ≠ n

theorem isUpperCode_zero : IsUpperCode 0 := by
  constructor <;> decide +kernel

theorem isUpperCode_of_run {r : CaseRun} {n m : Nat} (hr : r ∈ upperRuns)
    (h : r.image? n = some m) : IsUpperCode m := by
  have hstart := upperRuns_start
  have hout := upperRuns_leadsOutOf
  have hpast := upperRuns_leadsPast
  simp only [List.all_eq_true, decide_eq_true_eq] at hstart hout hpast
  exact ⟨fun s hs => CaseRun.image?_eq_none_of_leadsOutOf (hstart r hr) (hout r hr s hs) h,
    fun e he => CaseRun.ne_of_leadsPast (hpast r hr e he) h⟩

theorem isUpperCode_of_expansion {e : Nat × List Nat} {m : Nat} (he : e ∈ upperExpansions)
    (hm : m ∈ e.2) : IsUpperCode m := by
  have hmiss := upperExpansions_misses
  have hne := upperExpansions_ne
  simp only [List.all_eq_true, bne_iff_ne] at hmiss hne
  exact ⟨fun r hr => CaseRun.image?_eq_none_of_misses (hmiss e he m hm r hr), hne e he m hm⟩

/-- A number that is no code point gives the character zero, which has no case either. -/
theorem isUpperCode_toNat_ofNat {n : Nat} (h : IsUpperCode n) :
    IsUpperCode (Char.ofNat n).toNat := by
  by_cases hv : n.isValidChar
  · rwa [Char.ofNat, dif_pos hv, show (Char.ofNatAux n hv).toNat = n from rfl]
  · rw [Char.ofNat, dif_neg hv]
    exact isUpperCode_zero

theorem upperChar_of_isUpperCode {c : Char} (h : IsUpperCode c.toNat) : upperChar c = [c] := by
  have hruns : upperRuns.findSome? (·.image? c.toNat) = none :=
    List.findSome?_eq_none_iff.2 h.1
  have hexp : upperExpansions.lookup c.toNat = none := by
    rw [List.lookup_eq_none_iff]
    intro e he
    simpa using Ne.symm (h.2 e he)
  simp only [upperChar, caseImage, hruns, hexp]

theorem upperChar_of_mem_upperChar {c d : Char} (h : d ∈ upperChar c) : upperChar d = [d] := by
  apply upperChar_of_isUpperCode
  simp only [upperChar, caseImage] at h
  cases hr : upperRuns.findSome? (·.image? c.toNat) with
  | some m =>
      obtain ⟨r, hmem, himg⟩ := List.exists_of_findSome?_eq_some hr
      simp only [hr, List.mem_singleton] at h
      subst h
      exact isUpperCode_toNat_ofNat (isUpperCode_of_run hmem himg)
  | none =>
      cases he : upperExpansions.lookup c.toNat with
      | some ms =>
          obtain ⟨_, _, hsplit, -⟩ := List.lookup_eq_some_iff.1 he
          have hmem : (c.toNat, ms) ∈ upperExpansions := by simp [hsplit]
          simp only [hr, he, List.mem_map] at h
          obtain ⟨m, hm, rfl⟩ := h
          exact isUpperCode_toNat_ofNat (isUpperCode_of_expansion hmem hm)
      | none =>
          simp only [hr, he, List.mem_singleton] at h
          subst h
          refine ⟨List.findSome?_eq_none_iff.1 hr, fun e hmem hc => ?_⟩
          have hne := List.lookup_eq_none_iff.1 he e hmem
          simp [hc] at hne

/-- Text made of characters of uppercase text is uppercase. -/
theorem upper_eq_self {s t : List Char} (h : ∀ c ∈ t, c ∈ upper s) : upper t = t := by
  induction t with
  | nil => rfl
  | cons c t ih =>
      obtain ⟨d, -, hd⟩ := List.mem_flatMap.1 (h c (by simp))
      have hc : upperChar c = [c] := upperChar_of_mem_upperChar hd
      have ht : upper t = t := ih fun x hx => h x (by simp [hx])
      rw [upper] at ht ⊢
      rw [List.flatMap_cons, hc, ht, List.singleton_append]

end Exposure.Text
