import Exposure.Module.Load

/-!
What work does to the table of loaded modules. Work relates each world that it starts in to the one
that it leaves, also where it fails. If the relation is transitive and sees nothing but the table,
it is enough to know what loading does: an expression touches the table only by the functions that
it calls.
-/
namespace Exposure

namespace Eval

variable {α β : Type}

/-- What work comes to in a world, and the world that it leaves. -/
def ends (x : Eval α) (w : World) : Except Raised α × World := x.run.run w

theorem ends_bind (x : Eval α) (g : α → Eval β) (w : World) :
    ends (x >>= g) w = match ends x w with
      | (.ok a, w') => ends (g a) w'
      | (.error r, w') => (.error r, w') := by
  simp only [ends, ExceptT.run_bind, StateT.run_bind]
  rcases x.run.run w with ⟨_ | _, w'⟩ <;> rfl

/-- What is done with a world goes on in this world. -/
theorem ends_get_bind (g : World → Eval β) (w : World) : ends (get >>= g) w = ends (g w) w := rfl

theorem ends_tryCatch (x : Eval α) (h : Raised → Eval α) (w : World) :
    ends (tryCatch x h) w = match ends x w with
      | (.ok a, w') => (.ok a, w')
      | (.error r, w') => ends (h r) w' := by
  show StateT.run (ExceptT.run (ExceptT.tryCatch x h)) w = _
  have hrun : StateT.run x w = ends x w := rfl
  simp only [ExceptT.tryCatch, ExceptT.run_mk, StateT.run_bind, hrun]
  rcases ends x w with ⟨_ | _, w'⟩ <;> rfl

theorem ends_discard (x : Eval α) (w : World) :
    ends (discard x) w = match ends x w with
      | (.ok _, w') => (.ok (), w')
      | (.error r, w') => (.error r, w') :=
  ends_bind x (fun _ => pure ()) w

/-- Work takes each world to a related one. -/
def Acts (R : World → World → Prop) (x : Eval α) : Prop := ∀ w, R w (ends x w).2

/-- A relation that work of several parts has if its parts do, and that does not see more of a world
than the table of loaded modules. -/
structure OfTable (R : World → World → Prop) : Prop where
  same : ∀ {w w'}, w'.loaded = w.loaded → R w w'
  trans : ∀ {a b c}, R a b → R b c → R a c

section Acts

variable {R : World → World → Prop} (hR : OfTable R)

include hR

theorem acts_pure (a : α) : Acts R (pure a) := fun _ => hR.same rfl

theorem acts_throw (r : Raised) : Acts R (throw r : Eval α) := fun _ => hR.same rfl

theorem acts_throw_bind (r : Raised) (g : α → Eval β) : Acts R (throw r >>= g) :=
  fun _ => hR.same rfl

theorem acts_liftM (x : Except Raised α) : Acts R (liftM x) := fun _ => hR.same rfl

theorem acts_get : Acts R (get : Eval World) := fun _ => hR.same rfl

theorem acts_withNames (index : Nat) (change : Names → Names) :
    Acts R (modify fun w => w.withNames index change) :=
  fun _ => hR.same rfl

theorem OfTable.bind {x : Eval α} {g : α → Eval β} {w : World} (hx : R w (ends x w).2)
    (hg : ∀ a, Acts R (g a)) : R w (ends (x >>= g) w).2 := by
  rw [ends_bind]
  cases hends : ends x w with
  | mk outcome v =>
      rw [hends] at hx
      cases outcome with
      | error r => exact hx
      | ok a => exact hR.trans hx (hg a v)

theorem Acts.bind {x : Eval α} {g : α → Eval β} (hx : Acts R x) (hg : ∀ a, Acts R (g a)) :
    Acts R (x >>= g) :=
  fun w => hR.bind (hx w) hg

theorem Acts.map {x : Eval α} (hx : Acts R x) (g : α → β) : Acts R (g <$> x) := by
  rw [map_eq_pure_bind]
  exact hx.bind hR fun _ => acts_pure hR _

theorem Acts.discard {x : Eval α} (hx : Acts R x) : Acts R (discard x) := hx.map hR _

theorem Acts.tryCatch {x : Eval α} {h : Raised → Eval α} (hx : Acts R x)
    (hh : ∀ r, Acts R (h r)) : Acts R (tryCatch x h) := by
  intro w
  have hfirst := hx w
  rw [ends_tryCatch]
  cases hends : ends x w with
  | mk outcome v =>
      rw [hends] at hfirst
      cases outcome with
      | ok a => exact hfirst
      | error r => exact hR.trans hfirst (hh r v)

theorem acts_foldlM {g : β → α → Eval β} (hg : ∀ b a, Acts R (g b a)) (as : List α) (b : β) :
    Acts R (as.foldlM g b) := by
  induction as generalizing b with
  | nil => exact acts_pure hR b
  | cons a as ih =>
      rw [List.foldlM_cons]
      exact (hg b a).bind hR ih

theorem acts_forM {g : α → Eval PUnit} (hg : ∀ a, Acts R (g a)) (as : List α) :
    Acts R (as.forM g) := by
  induction as with
  | nil => exact acts_pure hR _
  | cons a as ih =>
      show Acts R (g a >>= fun _ => as.forM g)
      exact (hg a).bind hR fun _ => ih

end Acts

end Eval

open Eval

section Evaluation

variable {R : World → World → Prop} (hR : OfTable R)

include hR

theorem acts_lookup (f : Frame) (name : String) : Acts R (f.lookup name) := by
  refine (acts_get hR).bind hR fun w => ?_
  split
  · exact acts_pure hR _
  · split
    · exact acts_pure hR _
    · exact acts_throw hR _

namespace Value

theorem acts_register (marker : ClassId) (v : Value) : Acts R (register marker v) := by
  cases v with
  | type c =>
      simp only [register]
      split
      · exact acts_pure hR _
      · refine Acts.bind hR ?_ fun _ => acts_pure hR _
        exact fun _ => hR.same rfl
  | unknown => exact acts_pure hR _
  | _ => exact acts_throw hR _

theorem acts_setPart (v : Value) (name : String) (p : Value) : Acts R (v.setPart name p) := by
  unfold setPart
  split
  · exact acts_withNames hR _ _
  · exact acts_pure hR _

theorem acts_callTool (t : Tool) (given : List Value) : Acts R (callTool t given) := by
  unfold callTool
  split
  · exact acts_liftM hR _
  · exact acts_pure hR _
  · exact acts_register hR _ _
  · exact (acts_get hR).bind hR fun w => acts_liftM hR _
  · refine (acts_get hR).bind hR fun w => ?_
    split
    · exact acts_pure hR _
    · split
      · exact acts_pure hR _
      · exact acts_throw hR _
  · refine (acts_get hR).bind hR fun w => ?_
    split
    · exact acts_pure hR _
    · exact acts_pure hR _
    · split
      · exact acts_pure hR _
      · exact acts_throw hR _
  · exact (acts_setPart hR _ _ _).bind hR fun _ => acts_pure hR _
  · exact acts_pure hR _
  · exact acts_pure hR _
  · exact acts_pure hR _
  · exact acts_throw hR _

/-- Calling a value does no more to the table than calling functions does. -/
theorem acts_call {caller : Caller} (hcall : ∀ f given, Acts R (caller f given))
    (callee : Value) (given : List Value) (byPosition : Bool) :
    Acts R (callee.call caller given byPosition) := by
  cases callee with
  | tool t => exact acts_callTool hR t given
  | type c => exact acts_liftM hR _
  | member m =>
      cases m with
      | function f =>
          simp only [call]
          split
          · exact acts_pure hR _
          · split
            · exact hcall f given
            · exact acts_throw hR _
      | native kind => exact acts_pure hR _
      | wrapped wrapper marks inner =>
          cases wrapper with
          | static => exact acts_pure hR _
          | _ => exact acts_throw hR _
      | _ => exact acts_throw hR _
  | generic _ _ | unknown | form _ | applied _ _ => exact acts_pure hR _
  | _ => exact acts_throw hR _

end Value

namespace Source

omit hR in
/-- The first of several values, and what it becomes with the others: a starred one its items. -/
theorem evalAll_cons (call : Caller) (f : Frame) (e : Expr) (es : List Expr) :
    ∃ g : Value → List Value → List Value, evalAll call f (e :: es) =
      e.eval call f >>= fun v => evalAll call f es >>= fun vs => pure (g v vs) := by
  cases e
  case starred => exact ⟨fun v vs => v.items ++ vs, by simp only [evalAll, Expr.eval]⟩
  all_goals exact ⟨List.cons, by simp only [evalAll]⟩

omit hR in
/-- An entry gives a value for its key and one for itself; anything else only runs. -/
theorem evalEntries_cons (call : Caller) (f : Frame) (e : Expr) (es : List Expr) :
    (∃ key value, e = .pair key value ∧ evalEntries call f (e :: es) =
      key.eval call f >>= fun k => value.eval call f >>= fun v =>
        evalEntries call f es >>= fun vs => pure ((k, v) :: vs)) ∨
    evalEntries call f (e :: es) = e.eval call f >>= fun _ => evalEntries call f es := by
  cases e
  case pair key value => exact .inl ⟨key, value, rfl, by simp only [evalEntries]⟩
  all_goals exact .inr (by simp only [evalEntries])

variable {call : Caller}

omit hR

mutual

/-- Evaluating an expression does no more to the table than calling functions does. -/
theorem acts_eval (hR : OfTable R) (hcall : ∀ f given, Acts R (call f given)) (f : Frame) :
    ∀ e : Expr, Acts R (e.eval call f)
  | .name id => by
      rw [Expr.eval]
      exact acts_lookup hR f id
  | .constant _ | .slice _ | .comprehension _ _ | .await _ | .yield _ => by
      rw [Expr.eval]
      exact acts_pure hR _
  | .formatted items | .lambda items _ | .tuple items | .list items | .set items => by
      rw [Expr.eval]
      exact (acts_evalAll hR hcall f items).bind hR fun _ => acts_pure hR _
  | .dict entries => by
      rw [Expr.eval]
      exact (acts_evalEntries hR hcall f entries).bind hR fun _ => acts_pure hR _
  | .attribute base _ => by
      rw [Expr.eval]
      exact (acts_eval hR hcall f base).bind hR fun _ => (acts_get hR).bind hR fun _ =>
        acts_liftM hR _
  | .subscript base index => by
      rw [Expr.eval]
      exact (acts_eval hR hcall f base).bind hR fun _ =>
        (acts_eval hR hcall f index).bind hR fun _ => acts_liftM hR _
  | .call callee arguments => by
      rw [Expr.eval]
      exact (acts_eval hR hcall f callee).bind hR fun c =>
        (acts_evalAll hR hcall f arguments).bind hR fun given => Value.acts_call hR hcall c given _
  | .unary _ operand => by
      rw [Expr.eval]
      exact (acts_eval hR hcall f operand).bind hR fun _ => acts_liftM hR _
  | .binary op left right => by
      rw [Expr.eval]
      refine (acts_eval hR hcall f left).bind hR fun a => ?_
      split
      · exact acts_pure hR _
      · split
        · exact acts_pure hR _
        · refine (acts_eval hR hcall f right).bind hR fun b => ?_
          split
          · exact acts_pure hR _
          · exact acts_liftM hR _
  | .conditional test yes no => by
      rw [Expr.eval]
      refine (acts_eval hR hcall f test).bind hR fun v => ?_
      split
      · exact acts_eval hR hcall f yes
      · exact acts_eval hR hcall f no
  | .assignment _ e | .starred e | .doubleStarred e | .keyword _ e | .pair e _ => by
      rw [Expr.eval]
      exact acts_eval hR hcall f e
termination_by e => sizeOf e

theorem acts_evalAll (hR : OfTable R) (hcall : ∀ f given, Acts R (call f given)) (f : Frame) :
    ∀ es : List Expr, Acts R (evalAll call f es)
  | [] => by
      rw [evalAll]
      exact acts_pure hR _
  | e :: es => by
      obtain ⟨g, heq⟩ := evalAll_cons call f e es
      rw [heq]
      exact (acts_eval hR hcall f e).bind hR fun _ => (acts_evalAll hR hcall f es).bind hR fun _ =>
        acts_pure hR _
termination_by es => sizeOf es

theorem acts_evalEntries (hR : OfTable R) (hcall : ∀ f given, Acts R (call f given)) (f : Frame) :
    ∀ es : List Expr, Acts R (evalEntries call f es)
  | [] => by
      rw [evalEntries]
      exact acts_pure hR _
  | e :: es => by
      cases evalEntries_cons call f e es with
      | inl h =>
          obtain ⟨key, value, rfl, heq⟩ := h
          rw [heq]
          exact (acts_eval hR hcall f key).bind hR fun _ =>
            (acts_eval hR hcall f value).bind hR fun _ =>
              (acts_evalEntries hR hcall f es).bind hR fun _ => acts_pure hR _
      | inr heq =>
          rw [heq]
          exact (acts_eval hR hcall f e).bind hR fun _ => acts_evalEntries hR hcall f es
termination_by es => sizeOf es

end

end Source

end Evaluation

end Exposure
