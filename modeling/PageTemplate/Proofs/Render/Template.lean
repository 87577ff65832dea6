/-
What a renderer can be given: the name of a template, or a text. Either way a source is rendered under a
name, and the finished page goes through the formatter; so what holds of that rendering holds of both.
The run of one template is said here too: statements, program, lines. Without includes this is all that
a rendering does, and a cache that can tell the source from others does not show. Each statement becomes one
step, by the placeholders of its line or of its condition.
-/
import PageTemplate.Proofs.Outcome
import PageTemplate.Proofs.Render.Directives
import PageTemplate.Proofs.Render.History
import PageTemplate.Render.Renderer

namespace PageTemplate

/-- What a renderer is given. -/
inductive Template where
  | named (name : String)
  | given (text : String)
  deriving DecidableEq, Repr

/-- The name that a template is rendered under, and its source. -/
def Template.load (source : Source) : Template → Except TemplateError (String × Text)
  | .named name => (source name).map fun text => (name, text.toList)
  | .given text => .ok (Renderer.stringTemplate, text.toList)

/-- The state after a look at the clock. -/
def RenderState.refreshed (s : RenderState) : RenderState :=
  { s with context := s.context.refresh s.clock.now, clock := s.clock.tick }

namespace Renderer

variable {r : Renderer} {template : Template} {name : String} {source : Text} {s : RenderState}
variable {inner : List String → String → Render Text} {chain : List String}

/-- Renders what it is given. -/
def render (r : Renderer) : Template → Render String
  | .named name => r.renderFile name
  | .given text => r.renderString text

/-- Whatever is given, its source is rendered under its name, and then the page is finished. -/
theorem render_eq (r : Renderer) (template : Template) :
    r.render template = (do
      let (name, source) ← template.load r.source
      let page ← r.renderRoot name source
      r.finish (String.ofList page)) := by
  cases template with
  | given text => rfl
  | named name =>
    show r.renderFile name = (liftM ((r.source name).map _) >>= _ : Render String)
    unfold renderFile
    cases r.source name <;> rfl

theorem run_render (h : template.load r.source = .ok (name, source)) :
    (r.render template).run s =
      match (r.renderRoot name source).run s with
      | (.ok page, s') => (r.finish (String.ofList page), s')
      | (.error e, s') => (.error e, s') := by
  rw [render_eq, h]
  show (r.renderRoot name source >>= fun page => liftM (r.finish (String.ofList page))).run s = _
  rw [run_bind]
  rcases (r.renderRoot name source).run s with ⟨_ | page, s'⟩
  · rfl
  · exact run_lift _ _

/-- Without a formatter a file is rendered just where its template is loaded and becomes a page. -/
theorem run_renderFile_eq_ok_iff {s' : RenderState} {page : String}
    (hformat : r.options.formatOutput = false) :
    (r.renderFile name).run s = (.ok page, s') ↔
      ∃ text, r.source name = .ok text ∧
        (r.renderRoot name text.toList).run s = (.ok page.toList, s') := by
  have hfinish : ∀ body, r.finish body = .ok body := fun body => by
    rw [finish, hformat]
    rfl
  cases htext : r.source name with
  | error e =>
    rw [renderFile, htext]
    constructor
    · intro h; cases h
    · rintro ⟨_, h, -⟩; cases h
  | ok text =>
    have hload : (Template.named name).load r.source = .ok (name, text.toList) := by
      rw [Template.load, htext]
      rfl
    show (r.render (.named name)).run s = _ ↔ _
    rw [run_render hload]
    constructor
    · intro h
      refine ⟨text, rfl, ?_⟩
      rcases hroot : (r.renderRoot name text.toList).run s with ⟨_ | body, s₁⟩ <;> rw [hroot] at h
      · cases h
      · dsimp only at h
        rw [hfinish] at h
        cases h
        rw [String.toList_ofList]
    · rintro ⟨_, h, hroot⟩
      cases h
      rw [hroot]
      dsimp only
      rw [hfinish, String.ofList_toList]

/-! ## One template -/

/-- The run of a template whose includes are in place: statements, then a program, then lines. -/
theorem run_page (r : Renderer) (name : String) (source : Text) (s : RenderState) :
    (r.page name source).run s =
      match (s.cache.statements name source r.options.bufferName).1 >>= r.program s.context with
      | .error e => (.error e, { s with cache := (s.cache.statements name source r.options.bufferName).2 })
      | .ok program =>
        (r.written s.context program,
          { s with
            cache := (s.cache.statements name source r.options.bufferName).2
            programs := (name, program) :: s.programs }) := by
  have hcompiled : (r.compiled name source).run s =
      ((s.cache.statements name source r.options.bufferName).1,
        { s with cache := (s.cache.statements name source r.options.bufferName).2 }) := rfl
  unfold page
  rw [run_bind, hcompiled]
  cases (s.cache.statements name source r.options.bufferName).1 with
  | error e => rfl
  | ok statements =>
    rw [ok_bind]
    show (liftM (r.program s.context statements) >>= _ : Render Text).run _ = _
    rw [run_bind, run_lift]
    cases r.program s.context statements with
    | error e => rfl
    | ok program => exact run_lift _ _

/-- The page of a template without the look at the clock. -/
def filledPage (r : Renderer) (inner : List String → String → Render Text) (chain : List String)
    (name : String) (source : Text) : Render Text := do
  let parts ← (SourcePart.ofSource source).mapM (SourcePart.fill (inner (chain ++ [name])))
  r.page name parts.flatten

theorem run_renderSource (s : RenderState) :
    (r.renderSource inner chain name source).run s =
      (r.filledPage inner chain name source).run s.refreshed :=
  run_bind refreshClock (fun _ => r.filledPage inner chain name source) s

/-- A source without directives is the text of its page. -/
theorem renderSource_eq_page
    (h : ∀ before rest after,
      source ≠ before ++ SourcePart.opening ++ (rest ++ SourcePart.closing ++ after)) :
    (r.renderSource inner chain name source).run s =
      (r.page name source).run
        { s with context := s.context.refresh s.clock.now, clock := s.clock.tick } := by
  have hfilled : r.filledPage inner chain name source = r.page name source := by
    unfold filledPage
    rw [SourcePart.ofSource_eq_text h]
    simp [SourcePart.fill]
  rw [run_renderSource, hfilled]
  rfl

/-- The whole run for a source without directives that the cache tells from others: each stage is reached
when the one before has done with all of the source. -/
theorem run_render_of_no_directive (hload : template.load r.source = .ok (name, source))
    (hcache : s.cache.Distinguishes ⟨source, r.options.bufferName⟩)
    (hdirective : ∀ before rest after,
      source ≠ before ++ SourcePart.opening ++ (rest ++ SourcePart.closing ++ after)) :
    ∃ cache, (r.render template).run s =
      match Statement.ofLines r.options.bufferName source.lines >>=
          r.program (s.context.refresh s.clock.now) with
      | .error e => (.error e, ⟨s.context.refresh s.clock.now, s.clock.tick, cache, s.programs⟩)
      | .ok program =>
        (r.written (s.context.refresh s.clock.now) program >>= fun page => r.finish (String.ofList page),
          ⟨s.context.refresh s.clock.now, s.clock.tick, cache, (name, program) :: s.programs⟩) := by
  refine ⟨(s.cache.statements name source r.options.bufferName).2, ?_⟩
  have hstatements : (s.cache.statements name source r.options.bufferName).1 =
      Statement.ofLines r.options.bufferName source.lines :=
    hcache.statements_eq name
  rw [run_render hload, renderRoot, renderSource_eq_page hdirective, run_page]
  dsimp only
  rw [hstatements]
  cases Statement.ofLines r.options.bufferName source.lines >>=
      r.program (s.context.refresh s.clock.now) with
  | error e => rfl
  | ok program =>
    dsimp only
    cases r.written (s.context.refresh s.clock.now) program <;> rfl

end Renderer

/-! ## The steps of statements -/

namespace Statement

variable {ctx : Context} {expand : Text → Except TemplateError (List Node)} {s : Substitution}

theorem toStep_of_condition {c : Control} {condition : Text} (hcondition : c.condition = some condition)
    (hs : Substitution.ofLine ctx condition = .ok s) :
    toStep ctx expand (.control c) = .ok (.control { c with condition := some s.text }) := by
  rw [toStep, Control.substitute, hcondition]
  dsimp only
  rw [hs]
  rfl

theorem toStep_of_no_condition {c : Control} (hcondition : c.condition = none) :
    toStep ctx expand (.control c) = .ok (.control c) := by
  rw [toStep, Control.substitute, hcondition]
  rfl

theorem toStep_of_single {l : Literal} (hs : Substitution.ofLine ctx l.content = .ok s)
    (hsingle : s.multiline = false) : toStep ctx expand (.literal l) = .ok (.emit s.segments) := by
  rw [toStep, hs, ok_bind, hsingle]
  rfl

theorem toStep_of_multiline {l : Literal} {nodes : List Node} (hs : Substitution.ofLine ctx l.content = .ok s)
    (hmultiline : s.multiline = true) (hnodes : expand s.source = .ok nodes) :
    toStep ctx expand (.literal l) = .ok (.block nodes) := by
  rw [toStep, hs, ok_bind, if_pos hmultiline, hnodes]
  rfl

end Statement

end PageTemplate
