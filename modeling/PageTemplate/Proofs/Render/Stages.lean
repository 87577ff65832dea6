/-
The order of errors. A text without directives passes three checks before anything of it is run, each over
the whole text, and each begun only when the text has passed the one before: that every control line is
one, that every filter is known, and that the blocks are balanced and their conditions are expressions.
Which branch would be taken does not matter to any of them.
-/
import PageTemplate.Proofs.Line.Compilation
import PageTemplate.Proofs.Line.Filters
import PageTemplate.Proofs.Program.Assembled
import PageTemplate.Proofs.Render.Plain
import PageTemplate.Proofs.Render.Template

namespace PageTemplate.Renderer

open Statement (Malformed Reads Tagged)

variable {r : Renderer} {ctx : Context} {template : Template} {name : String} {source : Text}
variable {s : RenderState} {statements : List Statement} {steps : List Step}

/-- No value that is put into a literal line of the source has a line break. -/
def KeepsLines (ctx : Context) (source : Text) : Prop :=
  ∀ line ∈ source.lines, ¬ Tagged line → ValuesAre ('\n' ∉ ·) ctx line

instance (ctx : Context) (source : Text) : Decidable (KeepsLines ctx source) :=
  inferInstanceAs (Decidable (∀ line ∈ source.lines, ¬ Tagged line → ValuesAre ('\n' ∉ ·) ctx line))

/-- The rendering fails with `e`, and no program has been made that could be run. -/
def Stops (r : Renderer) (template : Template) (s : RenderState) (e : TemplateError) : Prop :=
  ∃ s', (r.render template).run s = (.error e, s') ∧ s'.programs = s.programs

/-! ## The three checks -/

/-- The steps of a source that keeps its lines need no more than its filters. -/
theorem steps_check (hreads : List.Forall₂ Reads source.lines statements)
    (hlines : KeepsLines ctx source) :
    ChecksFilters (statements.flatMap Statement.filterNames) (r.steps ctx statements) := by
  refine .mapM fun statement hstatement => Statement.toStep_checks fun l sub hl hsub => ?_
  subst hl
  obtain ⟨line, hline, hread⟩ := exists_right_of_forall₂ hreads.flip hstatement
  cases hread with
  | literal hliteral hcontent =>
    subst hcontent
    exact (Substitution.of_ofLine hsub).single (hlines _ hline hliteral)

/-- With its steps a text comes to be assembled. -/
theorem program_of_steps (hsteps : r.steps ctx statements = .ok steps) :
    r.program ctx statements = (Program.assemble steps).mapError .evaluation := by
  rw [program, hsteps]
  rfl

/-! ## The whole rendering -/

/-- A text is rendered in stages. The first malformed control line is what it fails with, whatever else is
wrong. If there is none, the first unknown filter is, wherever it is written. If there is none either, the
first line is that has no place among the open blocks or a condition that is no expression, or else the
block that is not closed. And only a text that has passed all of this becomes a program that is run. -/
theorem render_fails_in_stages (r : Renderer) (template : Template) (name : String) (source : Text)
    (s : RenderState) (hload : template.load r.source = .ok (name, source))
    (hcache : s.cache.Distinguishes ⟨source, r.options.bufferName⟩)
    (hdirective : ∀ before rest after,
      source ≠ before ++ SourcePart.opening ++ (rest ++ SourcePart.closing ++ after))
    (hlines : KeepsLines (s.context.refresh s.clock.now) source) :
    (∀ before line after fault, source.lines = before ++ line :: after →
      (∀ l ∈ before, ∀ fault, ¬ Malformed l fault) → Malformed line fault →
      r.Stops template s (.grammar (before.length + 1) (String.ofList line) fault)) ∧
    ((∀ line ∈ source.lines, ∀ fault, ¬ Malformed line fault) →
      ∃ statements, Statement.ofLines r.options.bufferName source.lines = .ok statements ∧
        List.Forall₂ Reads source.lines statements ∧
        (∀ before filter after, statements.flatMap Statement.filterNames = before ++ filter :: after →
          (∀ f ∈ before, Filter.IsNamed f) → ¬ Filter.IsNamed filter →
          r.Stops template s (.filterNotFound filter)) ∧
        ((∀ f ∈ statements.flatMap Statement.filterNames, Filter.IsNamed f) →
          ∃ steps, r.steps (s.context.refresh s.clock.now) statements = .ok steps ∧
            (∀ before step after fault, steps = before ++ step :: after → Misplaced before step fault →
              r.Stops template s (.evaluation fault)) ∧
            (∀ frame, EndsMissing steps frame →
              r.Stops template s (.evaluation (.unclosedBlock frame.kind))) ∧
            ((∀ before step after fault, steps = before ++ step :: after → ¬ Misplaced before step fault) →
              (∀ frame, ¬ EndsMissing steps frame) →
              ∃ p s', LinearBody p.nodes steps ∧ s'.programs = (name, p) :: s.programs ∧
                (r.render template).run s =
                  (r.written (s.context.refresh s.clock.now) p >>= fun page =>
                    r.finish (String.ofList page), s')))) := by
  obtain ⟨cache, hrun⟩ := run_render_of_no_directive hload hcache hdirective
  -- whatever goes wrong before there is a program, no program is left behind
  have hstops : ∀ e, (Statement.ofLines r.options.bufferName source.lines >>=
      r.program (s.context.refresh s.clock.now)) = .error e → r.Stops template s e := by
    intro e he
    rw [he] at hrun
    exact ⟨_, hrun, rfl⟩
  refine ⟨fun before line after fault hsource hbefore hfault => ?_, fun hall => ?_⟩
  · refine hstops _ ?_
    rw [hsource, Statement.ofLines_of_malformed hbefore hfault]
    rfl
  obtain ⟨statements, hstatements, hreads⟩ :
      ∃ statements, Statement.ofLines r.options.bufferName source.lines = .ok statements ∧
        List.Forall₂ Reads source.lines statements :=
    Statement.exists_ofLines hall
  rw [hstatements, ok_bind] at hrun hstops
  have hcheck := steps_check (r := r) hreads hlines
  refine ⟨statements, hstatements, hreads, fun before filter after hnames hbefore hfilter => ?_,
    fun hknown => ?_⟩
  · refine hstops _ ?_
    rw [program, hcheck.eq_error hnames hbefore hfilter]
    rfl
  obtain ⟨steps, hsteps⟩ := hcheck.exists_ok hknown
  refine ⟨steps, hsteps, fun before step after fault heq hmisplaced => ?_, fun frame hmissing => ?_,
    fun hplaced hclosed => ?_⟩
  · refine hstops _ ?_
    rw [program_of_steps hsteps, heq, Program.assemble_of_misplaced hmisplaced]
    rfl
  · refine hstops _ ?_
    rw [program_of_steps hsteps, Program.assemble_of_endsMissing hmissing]
    rfl
  · cases hassemble : Program.assemble steps with
    | error fault =>
      rcases Program.assemble_eq_error_iff.1 hassemble with
        ⟨before, step, after, heq, hmisplaced⟩ | ⟨frame, hmissing, -⟩
      · exact absurd hmisplaced (hplaced before step after fault heq)
      · exact absurd hmissing (hclosed frame)
    | ok p =>
      rw [program_of_steps hsteps, hassemble] at hrun
      exact ⟨p, _, Program.assemble_eq_ok_iff.1 hassemble, rfl, hrun⟩

/-- An unknown filter of a name that the context lacks, in a branch that would not be taken, in front of a
condition that is no expression, in a block that is not closed. -/
theorem render_fails_in_stages_of_unknown_filter :
    let text := "\x7b% if false %\x7d\n\x7b\x7b y | lower | nope \x7d\x7d\n\x7b% elif ( %\x7d"
    let r : Renderer := { options := {}, source := fun name => .error (.templateNotFound name) }
    let s : RenderState :=
      { context := ⟨[]⟩, clock := ⟨fun _ => ⟨0, "", ""⟩, 0⟩, cache := [], programs := [] }
    KeepsLines (s.context.refresh s.clock.now) text.toList ∧
      (∀ line ∈ Text.lines text.toList, ∀ fault, ¬ Malformed line fault) ∧
      r.Stops (.given text) s (.filterNotFound "nope") := by
  intro text r s
  have hlines : KeepsLines (s.context.refresh s.clock.now) text.toList := by decide +kernel
  have hnames : (Statement.ofLines r.options.bufferName (Text.lines text.toList)).toOption.map
      (List.flatMap Statement.filterNames) = some ["lower", "nope"] := by
    decide +kernel
  have hwell : ∀ line ∈ Text.lines text.toList, ∀ fault, ¬ Malformed line fault := by
    intro line hline fault
    cases hstatements : Statement.ofLines r.options.bufferName (Text.lines text.toList) with
    | error e => rw [hstatements] at hnames; cases hnames
    | ok statements =>
      obtain ⟨_, -, hreads⟩ :=
        exists_right_of_forall₂ (Statement.reads_of_ofLines hstatements) hline
      exact hreads.not_malformed
  obtain ⟨-, hall⟩ := render_fails_in_stages r (.given text) stringTemplate text.toList s rfl
    ⟨[], rfl, by decide +kernel⟩ (SourcePart.first?_eq_none_iff.1 (by decide +kernel)) hlines
  obtain ⟨statements, hstatements, -, hunknown, -⟩ := hall hwell
  rw [hstatements] at hnames
  exact ⟨hlines, hwell, hunknown ["lower"] "nope" [] (Option.some.inj hnames) (by decide) (by decide)⟩

end PageTemplate.Renderer
