/-
How values of several lines are expanded, step for step. The descent into a value begins at depth zero with
the statements of a template, and each value of several lines leads one deeper, to statements of its own,
until there is none or the bound is passed. Nothing in the values themselves keeps it from going on: a value
may hold the placeholder of its own name, or two values those of each other. Still every descent comes to an
end, in every context and under every bound, and to one outcome only.

The levels that are left under the bound go down with every value, and the induction is on them. An outcome
is reached in finitely many rules, so that to have one is to have come to an end.
-/
import PageTemplate.Proofs.Outcome
import PageTemplate.Render.Renderer

namespace PageTemplate.Renderer

mutual

/-- What is made of the source that a value of several lines was put into, at a depth: it is refused, or
compiled, and the instructions of its statements are assembled. -/
inductive ExpandsTo (r : Renderer) (ctx : Context) :
    (depth : Nat) → Text → Except TemplateError (List Node) → Prop
  | tooDeep {depth : Nat} {source : Text} :
      r.options.maxIncludeDepth < depth →
      ExpandsTo r ctx depth source (.error (.evaluation (.valuesNestedDeeper r.options.maxIncludeDepth)))
  | malformed {depth : Nat} {source : Text} {e : TemplateError} :
      depth ≤ r.options.maxIncludeDepth → Statement.ofLines r.options.bufferName source.lines = .error e →
      ExpandsTo r ctx depth source (.error e)
  | compiled {depth : Nat} {source : Text} {statements : List Statement}
      {steps : Except TemplateError (List Step)} :
      depth ≤ r.options.maxIncludeDepth →
      Statement.ofLines r.options.bufferName source.lines = .ok statements →
      StepsTo r ctx depth statements steps →
      ExpandsTo r ctx depth source
        (steps >>= fun steps => Program.nodes <$> (Program.assemble steps).mapError .evaluation)

/-- What is made of statements at a depth, one after the other, until one of them fails. -/
inductive StepsTo (r : Renderer) (ctx : Context) :
    (depth : Nat) → List Statement → Except TemplateError (List Step) → Prop
  | nil {depth : Nat} : StepsTo r ctx depth [] (.ok [])
  | fails {depth : Nat} {statement : Statement} {rest : List Statement} {e : TemplateError} :
      StepTo r ctx depth statement (.error e) → StepsTo r ctx depth (statement :: rest) (.error e)
  | cons {depth : Nat} {statement : Statement} {rest : List Statement} {step : Step}
      {steps : Except TemplateError (List Step)} :
      StepTo r ctx depth statement (.ok step) → StepsTo r ctx depth rest steps →
      StepsTo r ctx depth (statement :: rest) (List.cons step <$> steps)

/-- What is made of one statement at a depth. -/
inductive StepTo (r : Renderer) (ctx : Context) :
    (depth : Nat) → Statement → Except TemplateError Step → Prop
  | control {depth : Nat} {c : Control} :
      StepTo r ctx depth (.control c) (Step.control <$> c.substitute ctx)
  | fails {depth : Nat} {l : Literal} {e : TemplateError} :
      Substitution.ofLine ctx l.content = .error e → StepTo r ctx depth (.literal l) (.error e)
  | single {depth : Nat} {l : Literal} {s : Substitution} :
      Substitution.ofLine ctx l.content = .ok s → s.multiline = false →
      StepTo r ctx depth (.literal l) (.ok (.emit s.segments))
  | multiline {depth : Nat} {l : Literal} {s : Substitution} {nodes : Except TemplateError (List Node)} :
      Substitution.ofLine ctx l.content = .ok s → s.multiline = true →
      ExpandsTo r ctx (depth + 1) s.source nodes → StepTo r ctx depth (.literal l) (Step.block <$> nodes)

end

variable {r : Renderer} {ctx : Context} {depth : Nat}

/-! ## There is an outcome -/

section

variable {expand : Text → Except TemplateError (List Node)}
  (hexpand : ∀ source, r.ExpandsTo ctx (depth + 1) source (expand source))
include hexpand

theorem stepTo_toStep (statement : Statement) :
    r.StepTo ctx depth statement (statement.toStep ctx expand) := by
  cases statement with
  | control c => exact .control
  | literal l =>
    rw [Statement.toStep]
    cases hs : Substitution.ofLine ctx l.content with
    | error e => exact .fails hs
    | ok s =>
      rw [ok_bind]
      split
      · rename_i hmultiline
        exact .multiline hs hmultiline (hexpand s.source)
      · rename_i hsingle
        exact .single hs (Bool.eq_false_iff.2 hsingle)

theorem stepsTo_mapM :
    ∀ statements : List Statement,
      r.StepsTo ctx depth statements (statements.mapM (Statement.toStep ctx expand))
  | [] => .nil
  | statement :: rest => by
    have hfirst := stepTo_toStep hexpand statement
    rw [List.mapM_cons]
    cases hstep : statement.toStep ctx expand with
    | error e =>
      rw [hstep] at hfirst
      exact .fails hfirst
    | ok step =>
      rw [hstep] at hfirst
      exact .cons hfirst (stepsTo_mapM rest)

end

/-- At every depth the levels that are left are enough to come to an outcome. -/
theorem expandsTo_expand :
    ∀ {levels depth : Nat}, r.options.maxIncludeDepth + 1 - depth = levels → ∀ source : Text,
      r.ExpandsTo ctx depth source (r.expand ctx levels source)
  | 0, depth, hlevels, source => .tooDeep (by omega)
  | levels + 1, depth, hlevels, source => by
    -- a value in the source is one deeper, where one level less is left
    have hdepth : depth ≤ r.options.maxIncludeDepth := by omega
    have hinner : ∀ inner, r.ExpandsTo ctx (depth + 1) inner (r.expand ctx levels inner) :=
      expandsTo_expand (by omega)
    rw [expand]
    cases hstatements : Statement.ofLines r.options.bufferName source.lines with
    | error e => exact .malformed hdepth hstatements
    | ok statements => exact .compiled hdepth hstatements (stepsTo_mapM hinner statements)

/-! ## There is only one -/

mutual

theorem ExpandsTo.eq_expand :
    ∀ {depth : Nat} {source : Text} {nodes : Except TemplateError (List Node)},
      r.ExpandsTo ctx depth source nodes →
        nodes = r.expand ctx (r.options.maxIncludeDepth + 1 - depth) source
  | _, _, _, .tooDeep hdepth => by
    rw [Nat.sub_eq_zero_of_le hdepth]
    rfl
  | _, _, _, .malformed hdepth hstatements => by
    rw [Nat.succ_sub hdepth, expand, hstatements]
    rfl
  | _, _, _, .compiled hdepth hstatements hsteps => by
    rw [Nat.succ_sub hdepth, expand, hstatements, ok_bind, hsteps.eq_mapM]
    rfl

theorem StepsTo.eq_mapM :
    ∀ {depth : Nat} {statements : List Statement} {steps : Except TemplateError (List Step)},
      r.StepsTo ctx depth statements steps →
        steps = statements.mapM (Statement.toStep ctx (r.expand ctx (r.options.maxIncludeDepth - depth)))
  | _, _, _, .nil => rfl
  | _, _, _, .fails hstep => by rw [List.mapM_cons, ← hstep.eq_toStep, error_bind]
  | _, _, _, .cons hstep hsteps => by
    rw [List.mapM_cons, ← hstep.eq_toStep, ← hsteps.eq_mapM, ok_bind]
    rfl

theorem StepTo.eq_toStep :
    ∀ {depth : Nat} {statement : Statement} {step : Except TemplateError Step},
      r.StepTo ctx depth statement step →
        step = statement.toStep ctx (r.expand ctx (r.options.maxIncludeDepth - depth))
  | _, _, _, .control => rfl
  | _, _, _, .fails hs => by rw [Statement.toStep, hs, error_bind]
  | _, _, _, .single hs hsingle => by
    rw [Statement.toStep, hs, ok_bind, hsingle]
    rfl
  | _, _, _, .multiline hs hmultiline hnodes => by
    rw [Statement.toStep, hs, ok_bind, if_pos hmultiline, hnodes.eq_expand, Nat.add_sub_add_right]

end

/-- A source has one outcome at each depth. -/
theorem expandsTo_iff {source : Text} {nodes : Except TemplateError (List Node)} :
    r.ExpandsTo ctx depth source nodes ↔
      nodes = r.expand ctx (r.options.maxIncludeDepth + 1 - depth) source := by
  constructor
  · exact ExpandsTo.eq_expand
  · rintro rfl
    exact expandsTo_expand rfl source

/-- Statements have one outcome at each depth. -/
theorem stepsTo_iff {statements : List Statement} {steps : Except TemplateError (List Step)} :
    r.StepsTo ctx depth statements steps ↔
      steps = statements.mapM (Statement.toStep ctx (r.expand ctx (r.options.maxIncludeDepth - depth))) := by
  constructor
  · exact StepsTo.eq_mapM
  · rintro rfl
    exact stepsTo_mapM (expandsTo_expand (Nat.add_sub_add_right _ 1 depth)) statements

end PageTemplate.Renderer
