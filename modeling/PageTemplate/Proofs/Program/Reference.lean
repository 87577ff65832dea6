/-
What a program writes, said by its structure: each instruction has lines in an environment of names,
and the output is nowhere to be seen. A program that does not name the buffer writes exactly these
lines, whatever has been written before, and fails where there are none.
-/
import PageTemplate.Program.Run
import PageTemplate.Proofs.Fields
import PageTemplate.Proofs.Outcome

namespace PageTemplate

/-! ## The lines of instructions -/

/-- The values of names. -/
abbrev Env := String → Option Value

/-- An environment with more names, which hide the old ones; of two bindings of a name the later one
counts. -/
def Env.bound (env : Env) (bindings : Fields Value) : Env := fun n =>
  (Fields.get? n bindings.reverse).or (env n)

mutual

/-- The lines of an instruction. -/
def Node.lines : Node → Env → Except EvaluationFault (List Text)
  | .emit segments, env => .ok [segments.flatMap (·.emitted env)]
  | .block nodes, env => linesOf nodes env
  | .choice arms, env => arms.lines env
  | .loop header body, env => do
    let source ← header.source.eval env
    let items ← source.iterated
    let lines ← items.mapM fun item => do
      let bindings ← header.bindings item
      linesOf body (env.bound bindings)
    return lines.flatten

/-- The lines of the first arm whose condition is true. -/
def Arms.lines : Arms → Env → Except EvaluationFault (List Text)
  | .done, _ => .ok []
  | .otherwise body, env => linesOf body env
  | .test condition body rest, env => do
    let v ← condition.eval env
    if v.isTruthy then linesOf body env else rest.lines env

/-- The lines of instructions, one after the other. -/
def linesOf : List Node → Env → Except EvaluationFault (List Text)
  | [], _ => .ok []
  | node :: rest, env => do
    let first ← node.lines env
    let more ← linesOf rest env
    return first ++ more

end

theorem linesOf_append (env : Env) (after : List Node) :
    ∀ before, linesOf (before ++ after) env =
      (do let first ← linesOf before env; let more ← linesOf after env; return first ++ more)
  | [] => by
    show linesOf after env = linesOf after env >>= pure
    rw [bind_pure]
  | node :: before => by
    rw [List.cons_append, linesOf, linesOf, linesOf_append env after before]
    simp only [bind_assoc, pure_bind, List.append_assoc]

/-- A block has the lines of its instructions, as if they stood in its place. -/
theorem linesOf_block (env : Env) (before children after : List Node) :
    linesOf (before ++ .block children :: after) env = linesOf (before ++ (children ++ after)) env := by
  have hblock : linesOf (.block children :: after) env = linesOf (children ++ after) env := by
    rw [linesOf_append, linesOf, Node.lines]
  rw [linesOf_append, linesOf_append, hblock]

/-! ## The names in a program -/

/-- The names that an expression looks up. -/
def Expr.names : Expr → List String
  | .literal _ => []
  | .name n => [n]
  | .attribute base _ => base.names
  | .length e | .not e => e.names
  | .and left right | .or left right | .compare left _ right => left.names ++ right.names

/-- The name that a segment looks up. -/
def Segment.name? : Segment → Option String
  | .text _ => none
  | .deferred d => some d.name

mutual

/-- The names that an instruction looks up. -/
def Node.names : Node → List String
  | .emit segments => segments.filterMap Segment.name?
  | .block nodes => namesOf nodes
  | .choice arms => arms.names
  | .loop header body => header.source.names ++ namesOf body

def Arms.names : Arms → List String
  | .done => []
  | .otherwise body => namesOf body
  | .test condition body rest => condition.names ++ (namesOf body ++ rest.names)

def namesOf : List Node → List String
  | [] => []
  | node :: rest => node.names ++ namesOf rest

end

/-- An expression has the same value where its names have. -/
theorem Expr.eval_congr {env env' : Env} :
    ∀ {e : Expr}, (∀ n ∈ e.names, env n = env' n) → e.eval env = e.eval env'
  | .literal _, _ => rfl
  | .name n, h => by rw [eval, eval, h n List.mem_cons_self]
  | .attribute base _, h => by rw [eval, eval, eval_congr (e := base) h]
  | .length e, h => by rw [eval, eval, eval_congr (e := e) h]
  | .not e, h => by rw [eval, eval, eval_congr (e := e) h]
  | .and left right, h | .or left right, h | .compare left _ right, h => by
    obtain ⟨hleft, hright⟩ := List.forall_mem_append.1 h
    rw [eval, eval, eval_congr hleft, eval_congr hright]

theorem emitted_congr {env env' : Env} {segments : List Segment}
    (h : ∀ n ∈ segments.filterMap Segment.name?, env n = env' n) :
    segments.flatMap (·.emitted env) = segments.flatMap (·.emitted env') := by
  rw [List.flatMap_def, List.flatMap_def]
  refine congrArg List.flatten (List.map_congr_left fun segment hsegment => ?_)
  cases segment with
  | text => rfl
  | deferred d =>
    rw [Segment.emitted, Segment.emitted, h d.name (List.mem_filterMap.2 ⟨_, hsegment, rfl⟩)]

/-! ## Running against the lines -/

/-- The names that a scope gives values to, the buffer apart. -/
def Scope.visible (scope : Scope) : Env := fun n =>
  (Fields.get? n scope.locals).or (scope.context.get? n)

theorem Scope.get?_eq_visible {scope : Scope} {n : String} (h : n ≠ scope.buffer) :
    scope.get? n = scope.visible n := by
  unfold Scope.get? Scope.visible
  rw [if_neg h]
  split
  · rename_i heq; rw [heq]; rfl
  · rename_i heq; rw [heq]; rfl

theorem visible_bound (scope : Scope) (bindings : Fields Value) :
    { scope with locals := bindings.reverse ++ scope.locals }.visible = scope.visible.bound bindings := by
  funext n
  show (Fields.get? n (bindings.reverse ++ scope.locals)).or (scope.context.get? n) = _
  rw [Fields.get?_append, Option.or_assoc]
  rfl

/-- Run in a scope, whatever its output, the computation ends as `outcome` does and appends lines that
do not depend on the output: those of `outcome`, if it has any. -/
def Writes (x : Run Unit) (scope : Scope) (outcome : Except EvaluationFault (List Text)) : Prop :=
  ∃ written : List Text, (∀ lines, outcome = .ok lines → written = lines) ∧
    ∀ output : Array Text, x.run { scope with output } =
      (outcome.map fun _ => (), { scope with output := output ++ written.toArray })

namespace Writes

variable {scope : Scope} {x y : Run Unit} {a b : Except EvaluationFault (List Text)}

theorem nothing : Writes (pure ()) scope (.ok []) := by
  refine ⟨[], fun lines h => Except.ok.inj h, fun output => ?_⟩
  show (_, _) = (_, _)
  rw [Array.append_empty]
  rfl

theorem line (segments : List Segment) (text : Text)
    (h : ∀ output, segments.flatMap (·.emitted { scope with output }.get?) = text) :
    Writes (modify fun scope => scope.append (segments.flatMap (·.emitted scope.get?))) scope
      (.ok [text]) := by
  refine ⟨[text], fun lines h => Except.ok.inj h, fun output => ?_⟩
  show (_, Scope.append _ _) = _
  rw [h output, Scope.append, Array.push_eq_append]
  rfl

theorem fault (e : EvaluationFault) : Writes (throw e) scope (.error e) := by
  refine ⟨[], fun lines h => ?_, fun output => ?_⟩
  · cases h
  · show (_, _) = (_, _)
    rw [Array.append_empty]
    rfl

/-- Of two computations the second one writes after the first, if the first does not fail. -/
theorem seq (hx : Writes x scope a) (hy : Writes y scope b) :
    Writes (do x; y) scope (do let first ← a; let more ← b; return first ++ more) := by
  obtain ⟨w₁, hw₁, hx⟩ := hx
  obtain ⟨w₂, hw₂, hy⟩ := hy
  cases a with
  | error e =>
    refine ⟨w₁, fun lines h => ?_, fun output => ?_⟩
    · cases h
    · rw [run_bind, hx output]; rfl
  | ok first =>
    refine ⟨w₁ ++ w₂, fun lines h => ?_, fun output => ?_⟩
    · rw [ok_bind] at h
      obtain ⟨more, hmore, heq⟩ := bind_eq_ok.1 h
      cases heq
      rw [hw₁ first rfl, hw₂ more hmore]
    · have houtput : output ++ w₁.toArray ++ w₂.toArray = output ++ (w₁ ++ w₂).toArray := by simp
      rw [run_bind, hx output, ← houtput]
      cases b <;> exact hy (output ++ w₁.toArray)

section

variable {α : Type} {f : α → Run Unit} {g : α → Except EvaluationFault (List Text)}

theorem afterAnswer (c : Except EvaluationFault α) (hf : ∀ a, Writes (f a) scope (g a)) :
    Writes (do let a ← c; f a) scope (do let a ← c; g a) := by
  cases c with
  | error e => exact fault e
  | ok a => exact hf a

/-- The scope can be read where the output makes no difference. -/
theorem afterReading {v : Scope → Except EvaluationFault α} {c : Except EvaluationFault α}
    (hv : ∀ output, v { scope with output } = c) (hf : ∀ a, Writes (f a) scope (g a)) :
    Writes (do let a ← v (← get); f a) scope (do let a ← c; g a) := by
  obtain ⟨w, hw, hrun⟩ := afterAnswer c hf
  refine ⟨w, hw, fun output => Eq.trans ?_ (hrun output)⟩
  rw [run_bind]
  show ExceptT.run (liftM (v _) >>= f) _ = _
  rw [hv output]

end

/-- More names for the time of a computation. -/
theorem binding {bindings : Fields Value}
    (hx : Writes x { scope with locals := bindings.reverse ++ scope.locals } a) :
    Writes (Run.binding bindings x) scope a := by
  obtain ⟨w, hw, hx⟩ := hx
  refine ⟨w, hw, fun output => ?_⟩
  unfold Run.binding
  rw [ExceptT.run_mk, hx output]
  show (_, _) = (_, _)
  rw [← List.length_reverse, List.drop_left]

/-- A repetition writes the lines of its items one after the other. -/
theorem repeated {f : Value → Run Unit} {g : Value → Except EvaluationFault (List Text)}
    (hf : ∀ item, Writes (f item) scope (g item)) :
    ∀ items : List Value,
      Writes (items.forM f) scope (do let lines ← items.mapM g; return lines.flatten)
  | [] => nothing
  | item :: items => by
    have h := seq (hf item) (repeated hf items)
    simp only [bind_assoc, pure_bind] at h
    simp only [List.mapM_cons, bind_assoc, pure_bind, List.flatten_cons]
    exact h

end Writes

theorem eval_eq_visible {scope : Scope} {e : Expr} (h : scope.buffer ∉ e.names) (output : Array Text) :
    e.eval { scope with output }.get? = e.eval scope.visible := by
  refine Expr.eval_congr fun n hn => ?_
  exact Scope.get?_eq_visible fun heq => h (heq ▸ hn)

mutual

theorem Node.run_writes : ∀ (node : Node) (scope : Scope), scope.buffer ∉ node.names →
    Writes node.run scope (node.lines scope.visible)
  | .emit segments, scope, h => by
    refine Writes.line segments _ fun output => emitted_congr fun n hn => ?_
    exact Scope.get?_eq_visible fun heq => h (heq ▸ hn)
  | .block nodes, scope, h => runNodes_writes nodes scope h
  | .choice arms, scope, h => arms.run_writes scope h
  | .loop header body, scope, h => by
    rw [Node.names, List.mem_append, not_or] at h
    rw [Node.run, Node.lines]
    refine Writes.afterReading (v := fun scope => header.source.eval scope.get?)
      (eval_eq_visible h.1) fun source => ?_
    refine Writes.afterAnswer _ fun items => ?_
    refine Writes.repeated (fun item => ?_) items
    refine Writes.afterAnswer _ fun bindings => ?_
    -- the names of the item are the innermost locals of the body, and not a part of the output
    refine Writes.binding ?_
    rw [← visible_bound]
    exact runNodes_writes body _ h.2

theorem Arms.run_writes : ∀ (arms : Arms) (scope : Scope), scope.buffer ∉ arms.names →
    Writes arms.run scope (arms.lines scope.visible)
  | .done, _, _ => Writes.nothing
  | .otherwise body, scope, h => runNodes_writes body scope h
  | .test condition body rest, scope, h => by
    rw [Arms.names, List.mem_append, not_or, List.mem_append, not_or] at h
    rw [Arms.run, Arms.lines]
    refine Writes.afterReading (v := fun scope => condition.eval scope.get?)
      (eval_eq_visible h.1) fun v => ?_
    split
    · exact runNodes_writes body scope h.2.1
    · exact rest.run_writes scope h.2.2

theorem runNodes_writes : ∀ (nodes : List Node) (scope : Scope), scope.buffer ∉ namesOf nodes →
    Writes (runNodes nodes) scope (linesOf nodes scope.visible)
  | [], _, _ => Writes.nothing
  | node :: rest, scope, h => by
    rw [namesOf, List.mem_append, not_or] at h
    exact Writes.seq (node.run_writes scope h.1) (runNodes_writes rest scope h.2)

end

/-! ## Whole programs -/

/-- A program that does not name the buffer has its lines in the context as its output. -/
theorem Program.evaluate_eq_linesOf {program : Program} {buffer : String}
    (h : buffer ∉ namesOf program.nodes) (ctx : Context) :
    program.evaluate ctx buffer = linesOf program.nodes ctx.get? := by
  obtain ⟨written, hwritten, hrun⟩ := runNodes_writes program.nodes ⟨ctx, [], buffer, #[]⟩ h
  have hvisible : Scope.visible ⟨ctx, [], buffer, #[]⟩ = ctx.get? := rfl
  rw [hvisible] at hwritten hrun
  unfold Program.evaluate
  rw [hrun #[]]
  cases hlines : linesOf program.nodes ctx.get? with
  | error => rfl
  | ok lines =>
    rw [hwritten lines hlines]
    show Except.ok (#[] ++ lines.toArray).toList = _
    rw [Array.empty_append]

end PageTemplate
