/-!
Lists of key and value pairs read as finite maps that keep the order of insertion. Putting a
value under a known key keeps the key's place; a new key goes to the end.
-/
namespace Exposure.Assoc

variable {α β : Type}

/-- The value of the first pair with this key. -/
def get? (key : String) : List (String × α) → Option α
  | [] => none
  | (k, v) :: r => if k = key then some v else get? key r

/-- Replaces the value under a known key, otherwise appends the pair. -/
def put (key : String) (value : α) : List (String × α) → List (String × α)
  | [] => [(key, value)]
  | (k, v) :: r => if k = key then (k, value) :: r else (k, v) :: put key value r

/-- The keys in order. -/
def keys (m : List (String × α)) : List String := m.map Prod.fst

/-- Puts the pairs one after the other into an empty map. -/
def ofPairs (pairs : List (String × α)) : List (String × α) :=
  pairs.foldl (fun m p => put p.1 p.2 m) []

@[simp] theorem get?_nil (key : String) : get? key ([] : List (String × α)) = none := rfl

theorem get?_put (key other : String) (value : α) (m : List (String × α)) :
    get? other (put key value m) = if key = other then some value else get? other m := by
  induction m with
  | nil => simp [put, get?]
  | cons p r ih => grind [put, get?]

theorem mem_keys_iff_get? {key : String} {m : List (String × α)} :
    key ∈ keys m ↔ ∃ v, get? key m = some v := by
  induction m with
  | nil => simp [keys]
  | cons p r ih =>
    have ih' : key ∈ r.map Prod.fst ↔ ∃ v, get? key r = some v := ih
    by_cases h : p.1 = key
    · simp [keys, get?, h]
    · have h' : ¬key = p.1 := fun e => h e.symm
      simp [keys, get?, h, h', ih']

theorem keys_put (key : String) (value : α) (m : List (String × α)) :
    keys (put key value m) = if key ∈ keys m then keys m else keys m ++ [key] := by
  induction m with
  | nil => simp [put, keys]
  | cons p r ih =>
    by_cases h : p.1 = key
    · simp [put, keys, h]
    · have ih' : (put key value r).map Prod.fst =
          if key ∈ r.map Prod.fst then r.map Prod.fst else r.map Prod.fst ++ [key] := ih
      have h' : ¬key = p.1 := fun e => h e.symm
      simp only [put, keys, h, if_false, List.map_cons, ih', List.mem_cons, h', false_or]
      split <;> simp

theorem put_put (key : String) (first second : α) (m : List (String × α)) :
    put key second (put key first m) = put key second m := by
  induction m with
  | nil => simp [put]
  | cons c m ih => by_cases hc : c.1 = key <;> simp [put, hc, ih]

theorem mem_put {key : String} {value : α} {p : String × α} {m : List (String × α)}
    (h : p ∈ put key value m) : p = (key, value) ∨ p ∈ m := by
  induction m with
  | nil => exact .inl (List.mem_singleton.1 h)
  | cons q r ih =>
    by_cases hq : q.1 = key
    · rw [put, if_pos hq] at h
      rcases List.mem_cons.1 h with rfl | h
      · exact .inl (Prod.ext hq rfl)
      · exact .inr (List.mem_cons_of_mem _ h)
    · rw [put, if_neg hq] at h
      rcases List.mem_cons.1 h with rfl | h
      · exact .inr List.mem_cons_self
      · exact (ih h).imp_right (List.mem_cons_of_mem _)

theorem nodup_keys_put {key : String} {value : α} {m : List (String × α)} (h : (keys m).Nodup) :
    (keys (put key value m)).Nodup := by
  rw [keys_put]
  split
  · exact h
  · rename_i hn
    refine List.nodup_append.2 ⟨h, by simp, ?_⟩
    intro a ha b hb hab
    rw [List.mem_singleton] at hb
    exact hn (hb ▸ hab ▸ ha)

/-- A new key goes to the end. -/
theorem put_of_notMem {key : String} {m : List (String × α)} (h : key ∉ keys m) (value : α) :
    put key value m = m ++ [(key, value)] := by
  induction m with
  | nil => rfl
  | cons p r ih =>
    simp only [keys, List.map_cons, List.mem_cons, not_or] at h
    have h' : ¬p.1 = key := fun e => h.1 e.symm
    simp [put, h', ih h.2]

theorem get?_eq_none {key : String} {m : List (String × α)} (h : key ∉ keys m) :
    get? key m = none := by
  cases hv : get? key m with
  | none => rfl
  | some v => exact absurd (mem_keys_iff_get?.2 ⟨v, hv⟩) h

theorem mem_of_get? {key : String} {v : α} {m : List (String × α)} (h : get? key m = some v) :
    (key, v) ∈ m := by
  induction m with
  | nil => cases h
  | cons p r ih =>
    by_cases hk : p.1 = key
    · simp only [get?, hk, if_true, Option.some.injEq] at h
      exact List.mem_cons.2 (.inl (by rw [← hk, ← h]))
    · simp only [get?, hk, if_false] at h
      exact List.mem_cons_of_mem _ (ih h)

theorem get?_of_mem {p : String × α} {m : List (String × α)} (hn : (keys m).Nodup)
    (h : p ∈ m) : get? p.1 m = some p.2 := by
  induction m with
  | nil => cases h
  | cons q r ih =>
    obtain ⟨hq, hr⟩ := List.nodup_cons.1 hn
    rcases List.mem_cons.1 h with rfl | h
    · simp [get?]
    · have hne : q.1 ≠ p.1 := fun e => hq (e ▸ List.mem_map_of_mem h)
      simp [get?, hne, ih hr h]

theorem get?_filter (keep : α → Bool) {m : List (String × α)} (h : (keys m).Nodup)
    (key : String) : get? key (m.filter fun p => keep p.2) = (get? key m).filter keep := by
  induction m with
  | nil => rfl
  | cons p r ih =>
    obtain ⟨k, v⟩ := p
    obtain ⟨hk, hr⟩ := List.nodup_cons.1 h
    by_cases hkey : k = key
    · subst hkey
      have hrest : get? k (r.filter fun p => keep p.2) = none := by
        rw [ih hr, get?_eq_none hk, Option.filter_none]
      by_cases hv : keep v = true <;> simp [get?, hv, hrest, Option.filter]
    · by_cases hv : keep v = true <;> simp [get?, hv, hkey, ih hr]

theorem get?_map {β : Type} (f : String → α → β) (key : String) (m : List (String × α)) :
    get? key (m.map fun p => (p.1, f p.1 p.2)) = (get? key m).map (f key) := by
  induction m with
  | nil => rfl
  | cons p r ih =>
    by_cases hk : p.1 = key
    · simp [get?, hk]
    · simp [get?, hk, ih]

theorem get?_append (key : String) (m more : List (String × α)) :
    get? key (m ++ more) = (get? key m).or (get? key more) := by
  induction m with
  | nil => rfl
  | cons p r ih =>
    rw [List.cons_append, get?, get?, ih]
    split <;> rfl

theorem get?_without (key other : String) (m : List (String × α)) :
    get? other (m.filter (·.1 ≠ key)) = if other = key then none else get? other m := by
  induction m with
  | nil => simp
  | cons p r ih =>
    by_cases hkey : p.1 = key
    · rw [List.filter_cons_of_neg (by simpa using hkey), ih, get?]
      split
      · rfl
      · rename_i hother
        rw [if_neg fun heq => hother (heq.symm.trans hkey)]
    · rw [List.filter_cons_of_pos (by simpa using hkey), get?, get?, ih]
      by_cases hp : p.1 = other
      · rw [if_pos hp, if_neg (hp ▸ hkey), if_pos hp]
      · rw [if_neg hp, if_neg hp]

section Fold

variable (key : β → String) (value : β → α)

/-- Values under different new keys go to the end one after the other. -/
theorem foldl_put_of_nodup {xs : List β} {m : List (String × α)}
    (h : (keys m ++ xs.map key).Nodup) :
    xs.foldl (fun m x => put (key x) (value x) m) m = m ++ xs.map fun x => (key x, value x) := by
  induction xs generalizing m with
  | nil => simp
  | cons x xs ih =>
    have hnew : key x ∉ keys m := fun hmem =>
      (List.nodup_append.1 h).2.2 _ hmem _ (List.mem_map_of_mem List.mem_cons_self) rfl
    have hrest : (keys (m ++ [(key x, value x)]) ++ xs.map key).Nodup := by
      simpa [keys] using h
    rw [List.foldl_cons, put_of_notMem hnew, ih hrest]
    simp

theorem get?_foldl_put_of_notMem {xs : List β} {k : String} (h : k ∉ xs.map key)
    (m : List (String × α)) :
    get? k (xs.foldl (fun m x => put (key x) (value x) m) m) = get? k m := by
  induction xs generalizing m with
  | nil => rfl
  | cons x xs ih =>
    rw [List.map_cons, List.mem_cons, not_or] at h
    rw [List.foldl_cons, ih h.2, get?_put, if_neg (Ne.symm h.1)]

/-- Of values under different keys each one is found. -/
theorem get?_foldl_put_of_mem {xs : List β} (h : (xs.map key).Nodup) {x : β} (hx : x ∈ xs)
    (m : List (String × α)) :
    get? (key x) (xs.foldl (fun m x => put (key x) (value x) m) m) = some (value x) := by
  induction xs generalizing m with
  | nil => cases hx
  | cons y xs ih =>
    rw [List.map_cons, List.nodup_cons] at h
    rw [List.foldl_cons]
    rcases List.mem_cons.1 hx with rfl | hx
    · rw [get?_foldl_put_of_notMem key value h.1, get?_put, if_pos rfl]
    · exact ih h.2 hx _

end Fold

end Exposure.Assoc
