import Exposure.Symbol.Cache

/-!
Tables of slots that stand for a table of records. Numbers are given once and to one name each,
so that a name keeps its number, and a name that is no record any more keeps what it has become.
-/
namespace Exposure

namespace Assoc

variable {α : Type} {keep : α → Bool} {key : String} {m : List (String × α)}

theorem countP_put_of_none (h : get? key m = none) {v : α} (hv : keep v = false) :
    (put key v m).countP (fun e => keep e.2) = m.countP fun e => keep e.2 := by
  induction m with
  | nil => simp [put, hv]
  | cons p r ih =>
      by_cases hk : p.1 = key
      · simp [get?, hk] at h
      · simp only [get?, hk, if_false] at h
        simp only [put, hk, if_false, List.countP_cons, ih h]

theorem countP_put_of_some {w : α} (h : get? key m = some w) (hw : keep w = true) {v : α}
    (hv : keep v = false) :
    (put key v m).countP (fun e => keep e.2) + 1 = m.countP fun e => keep e.2 := by
  induction m with
  | nil => cases h
  | cons p r ih =>
      by_cases hk : p.1 = key
      · simp only [get?, hk, if_true, Option.some.injEq] at h
        subst h
        simp [put, hk, hv, hw]
      · simp only [get?, hk, if_false] at h
        have hr := ih h
        simp only [put, hk, if_false, List.countP_cons]
        omega

end Assoc

variable {ρ : Type}

def Slot.number? : Slot ρ → Option Nat
  | symbol k => some k
  | _ => none

def Slot.isRecord : Slot ρ → Bool
  | record _ => true
  | _ => false

theorem rawCount_eq (slots : Table (Slot ρ)) :
    SymbolCache.rawCount slots = slots.entries.countP fun e => e.2.isRecord := rfl

theorem rawCount_insert_unknown {slots : Table (Slot ρ)} {name : String}
    (h : slots.get? name = none) :
    SymbolCache.rawCount (slots.insert name .unknown) = SymbolCache.rawCount slots := by
  rw [rawCount_eq, rawCount_eq]
  exact Assoc.countP_put_of_none h rfl

theorem rawCount_insert_symbol {slots : Table (Slot ρ)} {name : String} {r : ρ}
    (h : slots.get? name = some (.record r)) (k : Nat) :
    SymbolCache.rawCount (slots.insert name (.symbol k)) + 1 = SymbolCache.rawCount slots := by
  rw [rawCount_eq, rawCount_eq]
  exact Assoc.countP_put_of_some h rfl rfl

/-- The number that a name has in the table, if it has become a symbol. -/
def numberAt (slots : Table (Slot ρ)) (name : String) : Option Nat :=
  (slots.get? name).bind Slot.number?

/-- The name is no record that waits to become a symbol. -/
def Settled (slots : Table (Slot ρ)) (name : String) : Prop :=
  ∀ r, slots.get? name ≠ some (.record r)

theorem numberAt_insert (slots : Table (Slot ρ)) (name other : String) (s : Slot ρ) :
    numberAt (slots.insert name s) other =
      if name = other then s.number? else numberAt slots other := by
  rw [numberAt, Table.get?_insert]
  by_cases h : name = other <;> simp [h, numberAt]

theorem numberAt_eq_some_iff {slots : Table (Slot ρ)} {name : String} {k : Nat} :
    numberAt slots name = some k ↔ slots.get? name = some (.symbol k) := by
  constructor
  · intro h
    obtain ⟨s, hs, hk⟩ := Option.bind_eq_some_iff.1 h
    cases s with
    | symbol n =>
        cases hk
        exact hs
    | record r => cases hk
    | unknown => cases hk
  · intro h
    simp [numberAt, h, Slot.number?]

theorem numberAt_eq_none_of_record {slots : Table (Slot ρ)} {name : String} {r : ρ}
    (h : slots.get? name = some (.record r)) : numberAt slots name = none := by
  simp [numberAt, h, Slot.number?]

theorem settled_of_numberAt {slots : Table (Slot ρ)} {name : String} {k : Nat}
    (h : numberAt slots name = some k) : Settled slots name := by
  intro r hr
  rw [numberAt_eq_none_of_record hr] at h
  cases h

theorem unknown_of_get? {slots : Table (Slot ρ)} {name : String}
    (h : slots.get? name = some .unknown) : Settled slots name ∧ numberAt slots name = none := by
  refine ⟨fun r hr => ?_, ?_⟩
  · rw [h] at hr
    cases hr
  · simp [numberAt, h, Slot.number?]

/-- The slots stand for the records: some of these are numbered symbols by now. -/
structure Hydrates (records : Table ρ) (slots : Table (Slot ρ)) (numbered : List ρ) : Prop where
  record : ∀ name r, slots.get? name = some (.record r) → records.get? name = some r
  symbol : ∀ name k, numberAt slots name = some k →
    ∃ r, records.get? name = some r ∧ numbered[k]? = some r
  kept : ∀ name r, records.get? name = some r →
    slots.get? name = some (.record r) ∨ ∃ k, numberAt slots name = some k
  inj : ∀ a b k, numberAt slots a = some k → numberAt slots b = some k → a = b

/-- Later slots: numbers stay, and no name becomes a record again. -/
structure Grows (slots slots' : Table (Slot ρ)) : Prop where
  number : ∀ name k, numberAt slots name = some k → numberAt slots' name = some k
  record : ∀ name r, slots'.get? name = some (.record r) → slots.get? name = some (.record r)
  fewer : SymbolCache.rawCount slots' ≤ SymbolCache.rawCount slots

namespace Grows

theorem refl (slots : Table (Slot ρ)) : Grows slots slots :=
  ⟨fun _ _ h => h, fun _ _ h => h, Nat.le_refl _⟩

theorem trans {a b c : Table (Slot ρ)} (hab : Grows a b) (hbc : Grows b c) : Grows a c :=
  ⟨fun name k h => hbc.number name k (hab.number name k h),
    fun name r h => hab.record name r (hbc.record name r h), Nat.le_trans hbc.fewer hab.fewer⟩

theorem settled {a b : Table (Slot ρ)} (h : Grows a b) {name : String} (hs : Settled a name) :
    Settled b name :=
  fun r hr => hs r (h.record name r hr)

end Grows

section

variable {records : Table ρ} {slots slots' : Table (Slot ρ)} {numbered numbered' : List ρ}

theorem Hydrates.numberAt_eq_none (h : Hydrates records slots numbered) {name : String}
    (hn : records.get? name = none) : numberAt slots name = none := by
  cases hk : numberAt slots name with
  | none => rfl
  | some k =>
      obtain ⟨r, hr, -⟩ := h.symbol name k hk
      rw [hn] at hr
      cases hr

theorem Hydrates.exists_number (h : Hydrates records slots numbered) {name : String} {r : ρ}
    (hr : records.get? name = some r) (hs : Settled slots name) :
    ∃ k, numberAt slots name = some k ∧ numbered[k]? = some r := by
  rcases h.kept name r hr with hrec | ⟨k, hk⟩
  · exact absurd hrec (hs r)
  · obtain ⟨r', hr', hget⟩ := h.symbol name k hk
    rw [hr] at hr'
    cases hr'
    exact ⟨k, hk, hget⟩

/-- What a settled name has become does not change any more. -/
theorem Grows.numberAt_eq (hg : Grows slots slots') (h : Hydrates records slots numbered)
    (h' : Hydrates records slots' numbered') {name : String} (hs : Settled slots name) :
    numberAt slots' name = numberAt slots name := by
  cases hr : records.get? name with
  | none => rw [h.numberAt_eq_none hr, h'.numberAt_eq_none hr]
  | some r =>
      obtain ⟨k, hk, -⟩ := h.exists_number hr hs
      rw [hk, hg.number name k hk]

theorem Hydrates.insert_unknown (h : Hydrates records slots numbered) {name : String}
    (hname : slots.get? name = none) :
    Hydrates records (slots.insert name .unknown) numbered ∧
      Grows slots (slots.insert name .unknown) ∧
      ∀ other, numberAt (slots.insert name .unknown) other = numberAt slots other := by
  have hnumber : ∀ other, numberAt (slots.insert name .unknown) other = numberAt slots other := by
    intro other
    rw [numberAt_insert]
    split
    · rename_i heq
      subst heq
      simp [numberAt, hname, Slot.number?]
    · rfl
  have hrecord : ∀ other r, (slots.insert name .unknown).get? other = some (.record r) ↔
      slots.get? other = some (.record r) := by
    intro other r
    rw [Table.get?_insert]
    split
    · rename_i heq
      subst heq
      simp [hname]
    · rfl
  refine ⟨⟨?_, ?_, ?_, ?_⟩, ⟨?_, ?_, ?_⟩, hnumber⟩
  · intro other r hr
    exact h.record other r ((hrecord other r).1 hr)
  · intro other k hk
    exact h.symbol other k (by rwa [hnumber] at hk)
  · intro other r hr
    rw [hrecord, hnumber]
    exact h.kept other r hr
  · intro a b k ha hb
    rw [hnumber] at ha hb
    exact h.inj a b k ha hb
  · intro other k hk
    rwa [hnumber]
  · intro other r hr
    exact (hrecord other r).1 hr
  · exact Nat.le_of_eq (rawCount_insert_unknown hname)

theorem Hydrates.insert_symbol (h : Hydrates records slots numbered) {name : String} {r : ρ}
    (hname : slots.get? name = some (.record r)) :
    Hydrates records (slots.insert name (.symbol numbered.length)) (numbered ++ [r]) ∧
      Grows slots (slots.insert name (.symbol numbered.length)) ∧
      SymbolCache.rawCount (slots.insert name (.symbol numbered.length)) + 1 =
        SymbolCache.rawCount slots := by
  have hself : numberAt (slots.insert name (.symbol numbered.length)) name =
      some numbered.length := by
    rw [numberAt_insert, if_pos rfl, Slot.number?]
  have hother {other : String} (hne : name ≠ other) :
      numberAt (slots.insert name (.symbol numbered.length)) other = numberAt slots other := by
    rw [numberAt_insert, if_neg hne]
  have hbound {other : String} {k : Nat} (hk : numberAt slots other = some k) :
      k < numbered.length := by
    obtain ⟨_, -, hget⟩ := h.symbol other k hk
    exact (List.getElem?_eq_some_iff.1 hget).1
  have hrecord : ∀ other s, (slots.insert name (.symbol numbered.length)).get? other =
      some (.record s) → slots.get? other = some (.record s) := by
    intro other s hs
    rw [Table.get?_insert] at hs
    split at hs
    · cases hs
    · exact hs
  have hcount := rawCount_insert_symbol hname numbered.length
  refine ⟨⟨?_, ?_, ?_, ?_⟩, ⟨?_, hrecord, ?_⟩, hcount⟩
  · intro other s hs
    exact h.record other s (hrecord other s hs)
  · intro other k hk
    by_cases hne : name = other
    · subst hne
      rw [hself] at hk
      cases hk
      exact ⟨r, h.record name r hname, by simp⟩
    · rw [hother hne] at hk
      obtain ⟨s, hs, hget⟩ := h.symbol other k hk
      exact ⟨s, hs, by rw [List.getElem?_append_left (hbound hk), hget]⟩
  · intro other s hs
    by_cases hne : name = other
    · subst hne
      exact .inr ⟨_, hself⟩
    · rw [hother hne, Table.get?_insert, if_neg hne]
      exact h.kept other s hs
  · intro a b k ha hb
    by_cases hna : name = a
    · by_cases hnb : name = b
      · rw [← hna, ← hnb]
      · -- The new number is no old one.
        rw [hother hnb] at hb
        rw [← hna, hself] at ha
        cases ha
        exact absurd (hbound hb) (Nat.lt_irrefl _)
    · rw [hother hna] at ha
      by_cases hnb : name = b
      · rw [← hnb, hself] at hb
        cases hb
        exact absurd (hbound ha) (Nat.lt_irrefl _)
      · rw [hother hnb] at hb
        exact h.inj a b k ha hb
  · intro other k hk
    have hne : name ≠ other := by
      rintro rfl
      rw [numberAt_eq_none_of_record hname] at hk
      cases hk
    rwa [hother hne]
  · exact Nat.le_of_succ_le (Nat.le_of_eq hcount)

theorem numberAt_records (records : Table ρ) (name : String) :
    numberAt (records.mapValues fun _ => .record) name = none := by
  rw [numberAt, Table.get?_mapValues (fun _ => Slot.record)]
  cases records.get? name <;> rfl

theorem hydrates_records (records : Table ρ) :
    Hydrates records (records.mapValues fun _ => .record) [] := by
  have hget : ∀ name, (records.mapValues fun _ => Slot.record).get? name =
      (records.get? name).map .record := Table.get?_mapValues (fun _ => Slot.record) records
  refine ⟨?_, ?_, ?_, ?_⟩
  · intro name r hr
    rw [hget] at hr
    obtain ⟨s, hs, heq⟩ := Option.map_eq_some_iff.1 hr
    cases heq
    exact hs
  · intro name k hk
    rw [numberAt_records] at hk
    cases hk
  · intro name r hr
    exact .inl (by rw [hget, hr, Option.map_some])
  · intro a b k ha
    rw [numberAt_records] at ha
    cases ha

end

end Exposure
