/-
The reserved name. Where a program runs, a loop variable or the output stands in front of whatever the
context has under the name of the buffer, so two contexts that are the same otherwise make the same of every
program: of its conditions, its loops and its deferred placeholders.

The two runs are compared step by step: their scopes differ in the reserved entry of the context only, and
no look into the scope gets there.
-/
import PageTemplate.Program.Run
import PageTemplate.Proofs.Agreement

namespace PageTemplate

/-- Two contexts have the same values under all names but one. -/
def Context.SameBut (name : String) (ctx ctx' : Context) : Prop := ∀ n ≠ name, ctx'.get? n = ctx.get? n

/-- Two scopes are the same but for what their contexts have under the name of the buffer. -/
structure Scope.SameButReserved (scope scope' : Scope) : Prop where
  context : scope.context.SameBut scope.buffer scope'.context
  locals : scope'.locals = scope.locals
  buffer : scope'.buffer = scope.buffer
  output : scope'.output = scope.output

namespace Scope.SameButReserved

variable {scope scope' : Scope}

/-- Every name has the same value. -/
theorem get?_eq (h : SameButReserved scope scope') : scope'.get? = scope.get? := by
  funext name
  unfold Scope.get? outputValue
  rw [h.locals, h.buffer, h.output]
  by_cases hname : name = scope.buffer
  · rw [if_pos hname, if_pos hname]
  · rw [if_neg hname, if_neg hname, h.context name hname]

theorem append (h : SameButReserved scope scope') (line : Text) :
    SameButReserved (scope.append line) (scope'.append line) :=
  ⟨h.context, h.locals, h.buffer, congrArg (·.push line) h.output⟩

theorem withLocals (h : SameButReserved scope scope') (f : Fields Value → Fields Value) :
    SameButReserved { scope with locals := f scope.locals } { scope' with locals := f scope'.locals } :=
  ⟨h.context, congrArg f h.locals, h.buffer, h.output⟩

end Scope.SameButReserved

/-- The computation does not see the reserved entry: it ends alike in scopes that differ in that only. -/
abbrev Blind {α : Type} (x : Run α) : Prop := Agree (fun _ => False) Scope.SameButReserved x x

namespace Blind

variable {α : Type}

/-- What is read from a scope are the values of names. -/
theorem reading {v : (String → Option Value) → Except EvaluationFault α} {f : α → Run Unit}
    (hf : ∀ a, Blind (f a)) : Blind (do let a ← v (← get).get?; f a) := by
  intro scope scope' h
  have hread (scope : Scope) : (do let a ← v (← get).get?; f a : Run Unit).run scope =
      (liftM (v scope.get?) >>= f : Run Unit).run scope := rfl
  rw [hread, hread, h.get?_eq]
  exact Agree.bind (Agree.lift (.refl _)) hf scope scope' h

theorem binding (bindings : Fields Value) {body : Run Unit} (hbody : Blind body) :
    Blind (Run.binding bindings body) := by
  intro scope scope' h
  rcases hbody _ _ (h.withLocals (bindings.reverse ++ ·)) with ⟨_, -, hnone⟩ | ⟨heq, hend⟩
  · exact hnone.elim
  · exact .inr ⟨heq, hend.withLocals (·.drop bindings.length)⟩

theorem repeated {f : α → Run Unit} (hf : ∀ item, Blind (f item)) : ∀ items : List α, Blind (items.forM f)
  | [] => Agree.pure ()
  | item :: items => Agree.bind (hf item) fun _ => repeated hf items

end Blind

/-! ## Programs -/

mutual

theorem Node.run_blind : ∀ node : Node, Blind node.run
  | .emit segments => by
    intro scope scope' h
    refine .inr ⟨rfl, ?_⟩
    show Scope.SameButReserved (scope.append _) (scope'.append _)
    rw [h.get?_eq]
    exact h.append _
  | .block nodes => runNodes_blind nodes
  | .choice arms => arms.run_blind
  | .loop header body => by
    rw [Node.run]
    refine Blind.reading (v := header.source.eval) fun source => ?_
    refine Agree.bind (Agree.lift (.refl _)) fun items => ?_
    refine Blind.repeated (fun item => ?_) items
    exact Agree.bind (Agree.lift (.refl _)) fun bindings => Blind.binding bindings (runNodes_blind body)

theorem Arms.run_blind : ∀ arms : Arms, Blind arms.run
  | .done => Agree.pure ()
  | .otherwise body => runNodes_blind body
  | .test condition body rest => by
    rw [Arms.run]
    refine Blind.reading (v := condition.eval) fun v => ?_
    split
    · exact runNodes_blind body
    · exact rest.run_blind

theorem runNodes_blind : ∀ nodes : List Node, Blind (runNodes nodes)
  | [] => Agree.pure ()
  | node :: rest => Agree.bind node.run_blind fun _ => runNodes_blind rest

end

theorem runNodes_singleton (node : Node) : runNodes [node] = node.run := by
  rw [runNodes, runNodes]
  exact bind_pure_unit

theorem Program.evaluate_eq (program : Program) (ctx : Context) (buffer : String) :
    program.evaluate ctx buffer =
      ((runNodes program.nodes).run ⟨ctx, [], buffer, #[]⟩).1.map fun _ =>
        ((runNodes program.nodes).run ⟨ctx, [], buffer, #[]⟩).2.output.toList := rfl

/-- What a program writes does not depend on what its context has under the name of the buffer. -/
theorem Program.evaluate_reserved (program : Program) {ctx ctx' : Context} {buffer : String}
    (h : ctx.SameBut buffer ctx') : program.evaluate ctx' buffer = program.evaluate ctx buffer := by
  have hstart : Scope.SameButReserved ⟨ctx, [], buffer, #[]⟩ ⟨ctx', [], buffer, #[]⟩ := ⟨h, rfl, rfl, rfl⟩
  rcases runNodes_blind program.nodes _ _ hstart with ⟨_, -, hnone⟩ | ⟨heq, hend⟩
  · exact hnone.elim
  · rw [evaluate_eq, evaluate_eq, ← heq, hend.output]

end PageTemplate
