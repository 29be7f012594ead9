import Exposure.Proofs.Module.Effect

/-!
What running statements does to the table of loaded modules: no more than the loads and the calls
that are done for them. A step lemma for each kind of statement, and from it by recursion what a
whole text and a called function do.
-/
namespace Exposure

open Eval

/-- The services touch the table as the relation says. -/
structure Services.Obeys (R : World → World → Prop) (s : Services) : Prop extends OfTable R where
  load : ∀ name, Acts R (s.load name)
  call : ∀ f given, Acts R (s.call f given)

variable {R : World → World → Prop}

section Frames

variable (hR : OfTable R)

include hR

theorem acts_bind (f : Frame) (name : String) (v : Value) : Acts R (f.bind name v) := by
  unfold Frame.bind
  dsimp only
  split
  · exact acts_pure hR _
  · exact (acts_withNames hR _ _).bind hR fun _ => acts_pure hR f

theorem acts_unbind (f : Frame) (name : String) : Acts R (f.unbind name) := by
  unfold Frame.unbind
  dsimp only
  split
  · split
    · exact acts_throw_bind hR _ _
    · exact acts_pure hR _
  · refine (acts_get hR).bind hR fun w => ?_
    split
    · exact acts_throw_bind hR _ _
    · exact (acts_withNames hR _ _).bind hR fun _ => acts_pure hR f

theorem acts_throwAsException {α : Type} (v : Value) :
    Acts R (v.throwAsException : Eval α) := by
  unfold Value.throwAsException
  split
  · exact acts_throw hR _
  · split
    · exact acts_throw hR _
    · exact acts_throw hR _
  · exact acts_throw hR _

end Frames

namespace Source

section Imports

variable (hR : OfTable R) {load : Loader} (hload : ∀ name, Acts R (load name))

include hR

theorem acts_importedPart (index : Nat) (name : String) : Acts R (importedPart index name) := by
  refine (acts_get hR).bind hR fun w => ?_
  split
  · exact acts_throw hR _
  · split
    · exact acts_pure hR _
    · split
      · exact acts_pure hR _
      · exact acts_throw hR _

include hload

theorem acts_loadPart (index : Nat) (name : String) : Acts R (loadPart load index name) := by
  refine (acts_get hR).bind hR fun w => ?_
  split
  · exact acts_pure hR _
  · split
    · exact acts_pure hR _
    · refine ((hload _).discard hR).tryCatch hR fun r => ?_
      split
      · exact acts_pure hR _
      · exact acts_throw hR _

theorem acts_runImport (f : Frame) (n : ImportedName) : Acts R (runImport load f n) := by
  refine (hload _).bind hR fun _ => (hload _).bind hR fun top => ?_
  dsimp only
  split
  · exact acts_bind hR f _ _
  · refine Acts.bind hR (acts_foldlM hR (fun v part => ?_) _ _) fun v => acts_bind hR f _ v
    split
    · exact acts_importedPart hR _ _
    · exact acts_pure hR _

theorem acts_runImportFrom (f : Frame) (module : String) (names : List ImportedName)
    (level : Nat) : Acts R (runImportFrom load f module names level) := by
  have hbind (index : Nat) (wanted : List ImportedName) :
      Acts R (wanted.forM (fun n => loadPart load index n.name) >>= fun _ =>
        wanted.foldlM (fun f n => do
          f.bind (n.boundAs.getD n.name) (← importedPart index n.name)) f) := by
    refine Acts.bind hR (acts_forM hR (fun n => ?_) _) fun _ => acts_foldlM hR (fun f n => ?_) _ _
    · exact acts_loadPart hR hload index n.name
    · exact (acts_importedPart hR index n.name).bind hR fun v => acts_bind hR f _ v
  refine (acts_get hR).bind hR fun w => (acts_liftM hR _).bind hR fun name =>
    (hload name).bind hR fun index => ?_
  split
  · exact (acts_get hR).bind hR fun w => hbind index _
  · exact hbind index _

theorem acts_runFeatures (f : Frame) (names : List ImportedName) :
    Acts R (runFeatures load f names) := by
  unfold runFeatures
  split
  · exact acts_throw_bind hR _ _
  · exact acts_runImportFrom hR hload _ _ _ _

end Imports

section Bindings

variable {call : Caller}

mutual

theorem acts_bindTarget (hR : OfTable R) (hcall : ∀ f given, Acts R (call f given)) (f : Frame)
    (v : Value) : ∀ target : Expr, Acts R (bindTarget call f v target)
  | .name id => by
      rw [bindTarget]
      exact acts_bind hR f id v
  | .tuple items | .list items => by
      rw [bindTarget]
      refine (acts_liftM hR _).bind hR fun vs => ?_
      split
      · exact acts_bindAll hR hcall f _ items
      · split
        · exact acts_bindAll hR hcall f _ items
        · exact acts_throw hR _
  | .starred target => by
      rw [bindTarget]
      exact acts_bindTarget hR hcall f v target
  | .attribute base name => by
      rw [bindTarget]
      exact (acts_eval hR hcall f base).bind hR fun _ =>
        (Value.acts_setPart hR _ _ _).bind hR fun _ => acts_pure hR f
  | .subscript base index => by
      rw [bindTarget]
      exact (acts_eval hR hcall f base).bind hR fun _ =>
        (acts_eval hR hcall f index).bind hR fun _ => acts_pure hR f
  | .constant _ | .formatted _ | .slice _ | .call _ _ | .unary _ _ | .binary _ _ _
  | .conditional _ _ _ | .lambda _ _ | .set _ | .dict _ | .comprehension _ _ | .await _ | .yield _
  | .assignment _ _ | .doubleStarred _ | .keyword _ _ | .pair _ _ => acts_pure hR f
termination_by target => sizeOf target

theorem acts_bindAll (hR : OfTable R) (hcall : ∀ f given, Acts R (call f given)) (f : Frame) :
    ∀ (vs : List Value) (targets : List Expr), Acts R (bindAll call f vs targets)
  | v :: vs, t :: ts => by
      rw [bindAll]
      exact (acts_bindTarget hR hcall f v t).bind hR fun g => acts_bindAll hR hcall g vs ts
  | [], _ => by
      simp only [bindAll]
      exact acts_pure hR f
  | _ :: _, [] => by
      simp only [bindAll]
      exact acts_pure hR f
termination_by _ targets => sizeOf targets

end

variable (hR : OfTable R) (hcall : ∀ f given, Acts R (call f given))

include hR hcall

theorem acts_unbindTarget (f : Frame) (target : Expr) : Acts R (unbindTarget call f target) := by
  unfold unbindTarget
  split
  · exact acts_unbind hR f _
  · refine (acts_eval hR hcall f _).bind hR fun v => ?_
    split
    · refine (acts_get hR).bind hR fun w => ?_
      dsimp only
      split
      · exact acts_throw_bind hR _ _
      · exact (acts_withNames hR _ _).bind hR fun _ => acts_pure hR f
    · exact acts_pure hR f
  · exact acts_pure hR f

theorem acts_hintText (f : Frame) (hint : Expr) : Acts R (hintText call f hint) := by
  unfold hintText
  split
  · exact acts_pure hR _
  · exact (acts_eval hR hcall f hint).bind hR fun _ => acts_pure hR _

theorem acts_decorate (decorators : List Value) (v : Value) :
    Acts R (decorate call decorators v) :=
  acts_foldlM hR (fun v d => Value.acts_call hR hcall d [v] true) _ _

theorem acts_makeFunction (f : Frame) (deferred : Bool) (name : String)
    (parameters : List Parameter) (returns : Option Expr) (body : List Stmt) :
    Acts R (makeFunction call f deferred name parameters returns body) := by
  have hoption {g : Expr → Eval PUnit} (hg : ∀ e, Acts R (g e)) (x : Option Expr) :
      Acts R (x.forM g) := by
    cases x with
    | none => exact acts_pure hR _
    | some e => exact hg e
  refine (acts_forM hR (fun p => hoption (fun e => (acts_eval hR hcall f e).discard hR) _) _).bind
    hR fun _ => ?_
  refine (acts_forM hR
    (fun p => hoption (fun e => (acts_hintText hR hcall f e).discard hR) _) _).bind hR fun _ => ?_
  refine Acts.bind hR ?_ fun _ => acts_pure hR _
  cases returns with
  | none => exact acts_pure hR _
  | some e => exact (acts_hintText hR hcall f e).map hR _

theorem acts_callOf (c : Class) (m : Member) : Acts R (m.callOf call c) := by
  have hinvoke (f : Function) (given : List Value) : Acts R (Member.invoke call f given) := by
    unfold Member.invoke
    split
    · exact hcall f given
    · exact acts_throw hR _
  have hplain (m : Member) : Acts R (m.callPlain call) := by
    fun_induction Member.callPlain call m with
    | case1 f => exact hinvoke f []
    | case2 _ inner ih => exact ih
    | case3 => exact acts_pure hR _
    | case4 => exact acts_throw hR _
  have hbound (m : Member) : Acts R (m.callBound call c) := by
    fun_induction Member.callBound call c m with
    | case1 f => exact hinvoke f _
    | case2 _ inner => exact hplain inner
    | case3 _ inner ih => exact ih
    | case4 _ f => exact (hinvoke f _).bind hR fun _ => acts_throw hR _
    | case5 => exact acts_throw hR _
  unfold Member.callOf
  split
  · exact hbound _
  · exact hplain _

theorem acts_tellAncestor (c : Class) : Acts R (tellAncestor call c) := by
  unfold tellAncestor
  split
  · exact (acts_callOf hR hcall c _).discard hR
  · exact acts_pure hR _

theorem acts_makeClass (f : Frame) (name : String) (bases : List Class) (names : Names) :
    Acts R (makeClass call f name bases names) := by
  unfold makeClass
  dsimp only
  by_cases hsealed : (bases.any fun b => Value.sealedClasses.any fun n => b.id == .known n) = true
  · rw [if_pos hsealed]
    exact acts_throw_bind hR _ _
  · rw [if_neg hsealed]
    intro w
    rw [ends_get_bind]
    split
    · exact acts_throw hR _ w
    · rename_i c _
      have htell : Acts R (tellAncestor call c >>= fun _ => pure (Value.type c)) :=
        (acts_tellAncestor hR hcall c).bind hR fun _ => acts_pure hR _
      exact hR.trans (b := { w with serial := w.serial + 1 }) (hR.same rfl) (htell _)

end Bindings

section Loops

variable (hR : OfTable R)

include hR

theorem acts_forRounds {round : Frame → Value → Eval (Frame × Flow)}
    (hround : ∀ f v, Acts R (round f v)) (f : Frame) (vs : List Value) :
    Acts R (forRounds round f vs) := by
  induction vs generalizing f with
  | nil => exact acts_pure hR _
  | cons v vs ih =>
      rw [forRounds]
      refine (hround f v).bind hR fun done => ?_
      split
      · exact ih _
      · exact ih _
      · exact acts_pure hR _

theorem acts_whileRounds {round : Frame → Eval (Option (Frame × Flow))}
    (hround : ∀ f, Acts R (round f)) (limit : Nat) (f : Frame) :
    Acts R (whileRounds round limit f) := by
  induction limit generalizing f with
  | zero => exact acts_throw hR _
  | succ limit ih =>
      rw [whileRounds]
      refine (hround f).bind hR fun done => ?_
      split
      · exact acts_pure hR _
      · exact ih _
      · exact ih _
      · exact acts_pure hR _

theorem acts_afterLoop {otherwise : Frame → Eval (Frame × Flow)}
    (hotherwise : ∀ f, Acts R (otherwise f)) (done : Frame × Flow) :
    Acts R (afterLoop otherwise done) := by
  unfold afterLoop
  split
  · exact hotherwise _
  · exact acts_pure hR _
  · exact acts_pure hR _

theorem acts_outcomeOf {α : Type} {x : Eval α} (hx : Acts R x) : Acts R (outcomeOf x) :=
  (hx.bind hR fun _ => acts_pure hR _).tryCatch hR fun _ => acts_pure hR _

theorem acts_atLast {final : Frame → Eval (Frame × Flow)} (hfinal : ∀ f, Acts R (final f))
    (f : Frame) (outcome : Except Raised (Frame × Flow)) : Acts R (atLast final f outcome) := by
  cases outcome with
  | ok done =>
      refine (hfinal _).bind hR fun last => ?_
      split
      · exact acts_pure hR _
      · exact acts_pure hR _
  | error r =>
      refine (hfinal f).bind hR fun last => ?_
      split
      · exact acts_throw hR _
      · exact acts_pure hR _

theorem acts_handle {run : Frame → Eval (Frame × Flow)} (hrun : ∀ f, Acts R (run f)) (f : Frame)
    (r : Raised) (bound : Option String) : Acts R (handle run f r bound) := by
  unfold handle
  dsimp only
  split
  · exact (acts_bind hR _ _ _).bind hR fun g => (hrun g).bind hR fun done =>
      (acts_bind hR _ _ _).bind hR fun g => (acts_unbind hR g _).bind hR fun _ => acts_pure hR _
  · exact (hrun _).bind hR fun _ => acts_pure hR _

theorem acts_classFrame (f : Frame) (name : String) (body : List Stmt) :
    Acts R (classFrame f name body) :=
  (acts_get hR).bind hR fun _ => acts_pure hR _

end Loops

variable {s : Services}

/-- A hint is looked at, but not in a function. -/
theorem acts_annotation (h : s.Obeys R) (f : Frame) (hint : Expr) : Acts R (do
    unless f.isFunction do
      let _ ← hintText s.call f hint
    return (f, Flow.next)) := by
  dsimp only
  split
  · exact acts_pure h.toOfTable _
  · exact (acts_hintText h.toOfTable h.call f hint).bind h.toOfTable
      fun _ => acts_pure h.toOfTable _

mutual

/-- Running a statement does no more to the table than the services do. -/
theorem acts_exec (h : s.Obeys R) (f : Frame) : ∀ stmt : Stmt, Acts R (stmt.exec s f)
  | .expr e => by
      rw [Stmt.exec]
      exact (acts_eval h.toOfTable h.call f e).bind h.toOfTable fun _ => acts_pure h.toOfTable _
  | .assign targets value => by
      have hR := h.toOfTable
      rw [Stmt.exec]
      exact (acts_eval hR h.call f value).bind hR fun v =>
        (acts_foldlM hR (fun f t => acts_bindTarget hR h.call f v t) _ _).bind hR fun _ =>
          acts_pure hR _
  | .augmented target op value => by
      have hR := h.toOfTable
      rw [Stmt.exec]
      exact (acts_eval hR h.call f target).bind hR fun old =>
        (acts_eval hR h.call f value).bind hR fun v => (acts_liftM hR _).bind hR fun new =>
          (acts_bindTarget hR h.call f new target).bind hR fun _ => acts_pure hR _
  | .annotated target hint none => by
      rw [Stmt.exec]
      exact (acts_pure h.toOfTable f).bind h.toOfTable fun f => acts_annotation h f hint
  | .annotated target hint (some e) => by
      have hR := h.toOfTable
      rw [Stmt.exec]
      exact (acts_eval hR h.call f e).bind hR fun v =>
        (acts_bindTarget hR h.call f v target).bind hR fun f => acts_annotation h f hint
  | .pass | .jump _ | .return none | .scope _ _ => by
      rw [Stmt.exec]
      exact acts_pure h.toOfTable _
  | .return (some e) => by
      rw [Stmt.exec]
      exact (acts_eval h.toOfTable h.call f e).bind h.toOfTable fun _ => acts_pure h.toOfTable _
  | .raise values => by
      have hR := h.toOfTable
      rw [Stmt.exec]
      refine (acts_evalAll hR h.call f values).bind hR fun vs => ?_
      split
      · exact acts_throw hR _
      · exact acts_throwAsException hR _
  | .delete targets => by
      have hR := h.toOfTable
      rw [Stmt.exec]
      exact (acts_foldlM hR (acts_unbindTarget hR h.call) targets f).bind hR fun _ => acts_pure hR _
  | .assert [] => by
      rw [Stmt.exec]
      exact acts_pure h.toOfTable _
  | .assert (test :: _) => by
      rw [Stmt.exec]
      refine (acts_eval h.toOfTable h.call f test).bind h.toOfTable fun v => ?_
      split
      · exact acts_pure h.toOfTable _
      · exact acts_throw h.toOfTable _
  | .import names => by
      have hR := h.toOfTable
      rw [Stmt.exec]
      exact (acts_foldlM hR (acts_runImport hR h.load) names f).bind hR fun _ => acts_pure hR _
  | .importFrom module names level => by
      have hR := h.toOfTable
      unfold Stmt.exec
      split
      · exact (acts_runFeatures hR h.load f names).bind hR fun _ => acts_pure hR _
      · exact (acts_runImportFrom hR h.load f module names level).bind hR fun _ => acts_pure hR _
  | .classDef decorators name arguments body => by
      have hR := h.toOfTable
      unfold Stmt.exec
      refine (acts_evalAll hR h.call f decorators).bind hR fun ds =>
        (acts_evalAll hR h.call f _).bind hR fun given => ?_
      dsimp only
      split
      · exact acts_throw_bind hR _ _
      · exact (acts_classFrame hR f name body).bind hR fun inner =>
          (acts_execAll h inner body).bind hR fun done => (acts_liftM hR _).bind hR fun bases =>
            (acts_makeClass hR h.call f name _ _).bind hR fun c =>
              (acts_decorate hR h.call ds c).bind hR fun v =>
                (acts_bind hR f name v).bind hR fun _ => acts_pure hR _
  | .functionDef deferred decorators name parameters returns body => by
      have hR := h.toOfTable
      rw [Stmt.exec]
      exact (acts_evalAll hR h.call f decorators).bind hR fun ds =>
        (acts_makeFunction hR h.call f deferred name parameters returns body).bind hR fun v =>
          (acts_decorate hR h.call ds v).bind hR fun v =>
            (acts_bind hR f name v).bind hR fun _ => acts_pure hR _
  | .conditional branches otherwise => by
      have hR := h.toOfTable
      rw [Stmt.exec]
      refine (acts_execBranches h f branches).bind hR fun done => ?_
      split
      · exact acts_pure hR _
      · exact acts_execAll h f otherwise
  | .whileLoop test body otherwise => by
      have hR := h.toOfTable
      rw [Stmt.exec]
      refine (acts_whileRounds hR (fun f => ?_) _ f).bind hR
        (acts_afterLoop hR fun f => acts_execAll h f otherwise)
      refine (acts_eval hR h.call f test).bind hR fun v => ?_
      split
      · refine (acts_execAll h f body).bind hR fun done => ?_
        split
        · exact acts_pure hR _
        · exact acts_pure hR _
      · split
        · exact (acts_execAll h f body).map hR _
        · exact acts_pure hR _
  | .forLoop target values body otherwise => by
      have hR := h.toOfTable
      rw [Stmt.exec]
      refine (acts_eval hR h.call f values).bind hR fun v => (acts_liftM hR _).bind hR fun vs => ?_
      refine (acts_forRounds hR (fun f v => ?_) f _).bind hR
        (acts_afterLoop hR fun f => acts_execAll h f otherwise)
      exact (acts_bindTarget hR h.call f v target).bind hR fun f => acts_execAll h f body
  | .within items body => by
      have hR := h.toOfTable
      rw [Stmt.exec]
      refine (acts_foldlM hR (fun f i => ?_) items f).bind hR fun f => acts_execAll h f body
      refine (acts_eval hR h.call f _).bind hR fun _ => ?_
      split
      · exact acts_bindTarget hR h.call f _ _
      · exact acts_pure hR f
  | .attempt body handlers otherwise final => by
      have hR := h.toOfTable
      rw [Stmt.exec]
      have hlast := acts_atLast hR (fun f => acts_execAll h f final) f
      refine (acts_outcomeOf hR (acts_execAll h f body)).bind hR fun outcome => ?_
      dsimp only
      split
      · exact (acts_outcomeOf hR (acts_execAll h _ otherwise)).bind hR hlast
      · exact (acts_pure hR _).bind hR hlast
      · exact (acts_outcomeOf hR (acts_execHandlers h f _ handlers)).bind hR hlast
  | .choice bodies => by
      rw [Stmt.exec]
      exact acts_execFirst h f bodies
termination_by stmt => sizeOf stmt

/-- So does running a text. -/
theorem acts_execAll (h : s.Obeys R) (f : Frame) : ∀ body : List Stmt, Acts R (execAll s f body)
  | [] => by
      rw [execAll]
      exact acts_pure h.toOfTable _
  | stmt :: stmts => by
      rw [execAll]
      refine (acts_exec h f stmt).bind h.toOfTable fun done => ?_
      split
      · exact acts_execAll h _ stmts
      · exact acts_pure h.toOfTable _
termination_by body => sizeOf body

theorem acts_execBranches (h : s.Obeys R) (f : Frame) :
    ∀ branches : List (Expr × List Stmt), Acts R (execBranches s f branches)
  | [] => by
      rw [execBranches]
      exact acts_pure h.toOfTable _
  | (test, body) :: branches => by
      rw [execBranches]
      refine (acts_eval h.toOfTable h.call f test).bind h.toOfTable fun v => ?_
      split
      · exact (acts_execAll h f body).map h.toOfTable _
      · exact acts_execBranches h f branches
termination_by branches => sizeOf branches

theorem acts_execHandlers (h : s.Obeys R) (f : Frame) (r : Raised) :
    ∀ handlers : List (Option Expr × Option String × List Stmt),
      Acts R (execHandlers s f r handlers)
  | [] => by
      rw [execHandlers]
      exact acts_throw h.toOfTable _
  | (kind, bound, body) :: handlers => by
      have hR := h.toOfTable
      have hgoes (fits : Bool) : Acts R (if fits then handle (fun f => execAll s f body) f r bound
          else execHandlers s f r handlers) := by
        split
        · exact acts_handle hR (fun f => acts_execAll h f body) f r bound
        · exact acts_execHandlers h f r handlers
      unfold execHandlers
      dsimp only
      split
      · exact (acts_eval hR h.call f _).bind hR fun v => (acts_pure hR _).bind hR hgoes
      · exact (acts_pure hR true).bind hR hgoes
termination_by handlers => sizeOf handlers

theorem acts_execFirst (h : s.Obeys R) (f : Frame) :
    ∀ bodies : List (List Stmt), Acts R (execFirst s f bodies)
  | [] => by
      rw [execFirst]
      exact acts_pure h.toOfTable _
  | body :: _ => by
      rw [execFirst]
      exact acts_execAll h f body
termination_by bodies => sizeOf bodies

end

/-- So does running the body of a function. -/
theorem acts_callFunction (h : s.Obeys R) (f : Function) (given : List Value) :
    Acts R (callFunction s f given) := by
  have hR := h.toOfTable
  unfold callFunction
  split
  · exact acts_pure hR _
  · refine (acts_execAll h _ f.body).bind hR fun done => ?_
    split
    · exact acts_pure hR _
    · exact acts_pure hR _

end Source
end Exposure
