import Mathlib.Data.List.Basic

/-!
Computations that may fail, one after the other and along lists.
-/
namespace Exposure

theorem bind_eq_ok {ε α β : Type} {x : Except ε α} {f : α → Except ε β} {b : β} :
    (x >>= f) = .ok b ↔ ∃ a, x = .ok a ∧ f a = .ok b := by
  cases x with
  | error e =>
      constructor
      · intro h
        cases h
      · rintro ⟨_, h, _⟩
        cases h
  | ok a =>
      constructor
      · intro h
        exact ⟨a, rfl, h⟩
      · rintro ⟨_, h, hf⟩
        cases h
        exact hf

theorem map_eq_ok {ε α β : Type} {x : Except ε α} {f : α → β} {b : β} :
    x.map f = .ok b ↔ ∃ a, x = .ok a ∧ f a = b := by
  cases x with
  | error e => exact ⟨nofun, nofun⟩
  | ok a => exact ⟨fun h => ⟨a, rfl, Except.ok.inj h⟩, by rintro ⟨_, h, rfl⟩; cases h; rfl⟩

theorem mapError_eq_ok {ε δ α : Type} {x : Except ε α} {f : ε → δ} {a : α} :
    x.mapError f = .ok a ↔ x = .ok a := by
  cases x with
  | error e => exact ⟨nofun, nofun⟩
  | ok b => exact ⟨fun h => congrArg _ (Except.ok.inj h), fun h => congrArg _ (Except.ok.inj h)⟩

theorem toOption_ok {ε α : Type} (a : α) : (.ok a : Except ε α).toOption = some a := rfl

theorem toOption_error {ε α : Type} (e : ε) : (.error e : Except ε α).toOption = none := rfl

theorem toOption_eq_some {ε α : Type} {x : Except ε α} {a : α} :
    x.toOption = some a ↔ x = .ok a := by
  cases x with
  | error e => simp [toOption_error]
  | ok b => simp [toOption_ok]

theorem toOption_congr {ε α : Type} {x y : Except ε α} (h : ∀ a, x = .ok a ↔ y = .ok a) :
    x.toOption = y.toOption := by
  ext a
  rw [toOption_eq_some, toOption_eq_some, h]

/-- Attempts along a list succeed together just if each one does. -/
theorem mapM_eq_ok {ε α β : Type} {f : α → Except ε β} {xs : List α} {ys : List β} (default : β) :
    xs.mapM f = .ok ys ↔
      (∀ x ∈ xs, ∃ y, f x = .ok y) ∧ ys = xs.map fun x => (f x).toOption.getD default := by
  induction xs generalizing ys with
  | nil => simp [pure, Except.pure, eq_comm]
  | cons x xs ih =>
      rw [List.mapM_cons, bind_eq_ok]
      simp only [bind_eq_ok, ih, List.forall_mem_cons, List.map_cons]
      constructor
      · rintro ⟨y, hy, rest, ⟨hrest, rfl⟩, heq⟩
        cases heq
        exact ⟨⟨⟨y, hy⟩, hrest⟩, by rw [hy]; rfl⟩
      · rintro ⟨⟨⟨y, hy⟩, hrest⟩, rfl⟩
        exact ⟨y, hy, _, ⟨hrest, rfl⟩, by rw [hy]; rfl⟩

/-- A fold succeeds just if the step does at every member, when what is gathered so far has no say
in it. -/
theorem foldlM_eq_ok_iff {ε α β : Type} {f : β → α → Except ε β} {good : α → Prop}
    (h : ∀ b x, (∃ b', f b x = .ok b') ↔ good x) {xs : List α} {b : β} :
    (∃ b', xs.foldlM f b = .ok b') ↔ ∀ x ∈ xs, good x := by
  induction xs generalizing b with
  | nil => simp [pure, Except.pure]
  | cons x xs ih =>
      simp only [List.foldlM_cons, bind_eq_ok, List.forall_mem_cons, ← h b x]
      constructor
      · rintro ⟨b'', b', hx, hxs⟩
        exact ⟨⟨b', hx⟩, ih.1 ⟨b'', hxs⟩⟩
      · rintro ⟨⟨b', hx⟩, hxs⟩
        obtain ⟨b'', hrest⟩ := ih.2 hxs
        exact ⟨b'', b', hx, hrest⟩

section Filter

variable {ε α : Type} {f : α → Except ε Bool} {fault : ε}

theorem filterAuxM_eq {xs : List α} (h : ∀ x ∈ xs, ∀ e, f x = .error e → e = fault)
    (acc : List α) :
    xs.filterAuxM f acc = if ∀ x ∈ xs, (f x).toOption.isSome
      then .ok ((xs.filter fun x => (f x).toOption = some true).reverse ++ acc)
      else .error fault := by
  induction xs generalizing acc with
  | nil => simp [List.filterAuxM, pure, Except.pure]
  | cons x xs ih =>
      have hrest := ih (fun y hy => h y (by simp [hy]))
      rw [List.filterAuxM]
      cases hx : f x with
      | error e =>
          cases h x (by simp) e hx
          simp [hx, toOption_error, bind, Except.bind]
      | ok keep => cases keep <;> simp [hx, hrest, toOption_ok, bind, Except.bind]

/-- Filtering by a test that can fail in one way only. -/
theorem filterM_eq {xs : List α} (h : ∀ x ∈ xs, ∀ e, f x = .error e → e = fault) :
    xs.filterM f = if ∀ x ∈ xs, (f x).toOption.isSome
      then .ok (xs.filter fun x => (f x).toOption = some true) else .error fault := by
  rw [List.filterM, filterAuxM_eq h]
  split <;> simp [bind, Except.bind, pure, Except.pure]

theorem filterAuxM_eq_ok {xs acc ys : List α} :
    xs.filterAuxM f acc = .ok ys ↔ (∀ x ∈ xs, ∃ keep, f x = .ok keep) ∧
      ys = (xs.filter fun x => (f x).toOption = some true).reverse ++ acc := by
  induction xs generalizing acc with
  | nil => simp [List.filterAuxM, pure, Except.pure, eq_comm]
  | cons x xs ih =>
      rw [List.filterAuxM, bind_eq_ok]
      simp only [ih, List.forall_mem_cons]
      constructor
      · rintro ⟨keep, hx, hxs, rfl⟩
        refine ⟨⟨⟨keep, hx⟩, hxs⟩, ?_⟩
        cases keep <;> simp [hx, toOption_ok]
      · rintro ⟨⟨⟨keep, hx⟩, hxs⟩, rfl⟩
        refine ⟨keep, hx, hxs, ?_⟩
        cases keep <;> simp [hx, toOption_ok]

/-- A filter succeeds just if it has a verdict on each member, and then keeps those that pass. -/
theorem filterM_eq_ok {xs ys : List α} : xs.filterM f = .ok ys ↔
    (∀ x ∈ xs, ∃ keep, f x = .ok keep) ∧ ys = xs.filter fun x => (f x).toOption = some true := by
  rw [List.filterM, bind_eq_ok]
  simp only [filterAuxM_eq_ok, List.append_nil]
  constructor
  · rintro ⟨_, ⟨hxs, rfl⟩, heq⟩
    cases heq
    exact ⟨hxs, List.reverse_reverse _⟩
  · rintro ⟨hxs, rfl⟩
    exact ⟨_, ⟨hxs, rfl⟩, congrArg Except.ok (List.reverse_reverse _)⟩

end Filter

end Exposure
