/-
The block structure of a page comes from its text alone. A literal line is one leaf of the program,
whatever is put into it, so the values of a context cannot open, close or divide a block of the text: two
contexts under which the conditions are the same make programs of one outline, or are refused for the same
reason. A value of several lines is compiled with the rest of its line as a source of its own, and the
tags of that source have to be closed in it; two values of one line may therefore close each other's tags.
-/
import PageTemplate.Proofs.Program.Outline
import PageTemplate.Proofs.Render.Plain
import PageTemplate.Source.Library

namespace PageTemplate

/-! ## Literal lines are leaves -/

namespace Statement

variable {ctx ctx' : Context} {expand expand' : Text → Except TemplateError (List Node)}

def keyword? : Statement → Option Keyword
  | .literal _ => none
  | .control c => some c.keyword

theorem toStep_literal {l : Literal} {step : Step}
    (h : toStep ctx expand (.literal l) = .ok step) : step.outline = .emit [] := by
  obtain ⟨s, -, h⟩ := bind_eq_ok.1 h
  split at h
  · obtain ⟨nodes, -, rfl⟩ := map_eq_ok.1 h
    rfl
  · cases h; rfl

theorem toStep_control {c : Control} {step : Step} (h : toStep ctx expand (.control c) = .ok step) :
    ∃ d, c.substitute ctx = .ok d ∧ .control d = step :=
  map_eq_ok.1 h

theorem substitute_eq_ok {c d : Control} (h : c.substitute ctx = .ok d) :
    d = { c with condition := d.condition } := by
  unfold Control.substitute at h
  split at h
  · cases h; rfl
  · obtain ⟨s, -, h⟩ := bind_eq_ok.1 h
    cases h
    rfl

/-- Substitution keeps the keyword of a statement, if it has one. -/
theorem keyword?_of_toStep {statement : Statement} {step : Step}
    (h : statement.toStep ctx expand = .ok step) : step.keyword? = statement.keyword? := by
  cases statement with
  | literal l =>
    have hleaf := toStep_literal h
    cases step with
    | emit | block => rfl
    | control => cases hleaf
  | control c =>
    obtain ⟨d, hd, rfl⟩ := toStep_control h
    rw [substitute_eq_ok hd]
    rfl

/-- Every control line of the statements has the same condition in the two contexts. -/
def SameConditions (ctx ctx' : Context) (statements : List Statement) : Prop :=
  ∀ c d d', .control c ∈ statements → c.substitute ctx = .ok d → c.substitute ctx' = .ok d' →
    d.condition = d'.condition

theorem outline_of_toStep {statement : Statement} {step step' : Step}
    (h : statement.toStep ctx expand = .ok step) (h' : statement.toStep ctx' expand' = .ok step')
    (hsame : SameConditions ctx ctx' [statement]) : step.outline = step'.outline := by
  cases statement with
  | literal l => rw [toStep_literal h, toStep_literal h']
  | control c =>
    obtain ⟨d, hd, rfl⟩ := toStep_control h
    obtain ⟨d', hd', rfl⟩ := toStep_control h'
    have hcondition := hsame c d d' List.mem_cons_self hd hd'
    rw [substitute_eq_ok hd, substitute_eq_ok hd', hcondition]

theorem outlines_of_toStep {statements : List Statement} {steps : List Step}
    (h : List.Forall₂ (fun statement step => toStep ctx expand statement = .ok step) statements steps) :
    ∀ {steps' : List Step},
      List.Forall₂ (fun statement step => toStep ctx' expand' statement = .ok step) statements steps' →
      SameConditions ctx ctx' statements → steps.map Step.outline = steps'.map Step.outline := by
  induction h with
  | nil => intro steps' h' _; cases h'; rfl
  | cons hstep _ ih =>
    intro steps' h' hsame
    cases h' with
    | cons hstep' hrest' =>
      rw [List.map_cons, List.map_cons, ih hrest' fun c d d' hc => hsame c d d' (List.mem_cons_of_mem _ hc)]
      refine congrArg (· :: _) (outline_of_toStep hstep hstep' fun c d d' hc => hsame c d d' ?_)
      rw [List.mem_singleton.1 hc]
      exact List.mem_cons_self

theorem keywords_of_toStep {statements : List Statement} {steps : List Step}
    (h : List.Forall₂ (fun statement step => toStep ctx expand statement = .ok step) statements steps) :
    keywordsOf steps = statements.filterMap keyword? := by
  induction h with
  | nil => rfl
  | cons hstep _ ih =>
    unfold keywordsOf at ih ⊢
    rw [List.filterMap_cons, List.filterMap_cons, ih, keyword?_of_toStep hstep]

end Statement

/-! ## The source of a line with values of several lines -/

/-- The lines of a source read as statements, and every block in them is closed in them. -/
def Text.Balanced (source : Text) : Prop :=
  ∃ statements, List.Forall₂ Statement.Reads source.lines statements ∧
    Nested (statements.filterMap Statement.keyword?)

/-- The keywords of the control lines of a source. -/
def Text.keywords (source : Text) : List Keyword := source.lines.filterMap fun line =>
  if Statement.isControlLine line then (Statement.readControl line).toOption.map (·.1) else none

theorem Text.Balanced.nested {source : Text} (h : source.Balanced) : Nested source.keywords := by
  obtain ⟨statements, hreads, hnested⟩ := h
  suffices heq : source.keywords = statements.filterMap Statement.keyword? by rwa [heq]
  clear hnested
  unfold keywords
  generalize source.lines = lines at hreads
  induction hreads with
  | nil => rfl
  | cons hline _ ih =>
    rw [List.filterMap_cons, List.filterMap_cons, ih]
    cases hline with
    | literal hliteral =>
      rw [if_neg fun hcontrol => hliteral (Statement.isControlLine_eq_true_iff.1 hcontrol)]
      rfl
    | control htagged hread =>
      rw [if_pos (Statement.isControlLine_eq_true_iff.2 htagged), hread]
      rfl

/-- What stands for a placeholder in the source of its line: the text of its value, or what is written
if its name is unknown. -/
def Placeholder.Fills (ctx : Context) (p : Placeholder) (t : Text) : Prop :=
  p.Resolves ctx t ∨ (ctx.get? p.name = none ∧ t = p.raw)

theorem Placeholder.Fills.unique {ctx : Context} {p : Placeholder} {t t' : Text} (h : p.Fills ctx t)
    (h' : p.Fills ctx t') : t = t' := by
  rcases h with h | ⟨hnone, rfl⟩ <;> rcases h' with h' | ⟨hnone', rfl⟩
  · exact h.unique h'
  · exact absurd hnone' h.get?_ne_none
  · exact absurd hnone h'.get?_ne_none
  · rfl

/-- A placeholder that stands alone on its line is no tag. -/
theorem Placeholder.Written.not_tagged {p : Placeholder} (h : p.Written) : ¬ Statement.Tagged p.raw := by
  rintro ⟨hopen, -⟩
  have hbraced : Text.Braced (p.raw ++ []) := .placeholder h .nil
  rw [List.append_nil] at hbraced
  obtain ⟨before, after, heq⟩ := hopen
  exact hbraced.no_tag before after (by rw [← heq]; simp [Statement.tagOpen])

namespace Renderer

variable {r : Renderer} {ctx : Context}

/-- Only a balanced source can be expanded. -/
theorem balanced_of_expand {levels : Nat} {source : Text} {nodes : List Node}
    (h : r.expand ctx levels source = .ok nodes) : source.Balanced := by
  cases levels with
  | zero => cases h
  | succ levels =>
    rw [expand] at h
    obtain ⟨statements, hstatements, h⟩ := bind_eq_ok.1 h
    obtain ⟨steps, hsteps, h⟩ := bind_eq_ok.1 h
    obtain ⟨program, hprogram, -⟩ := bind_eq_ok.1 h
    refine ⟨statements, Statement.reads_of_ofLines hstatements, ?_⟩
    rw [← Statement.keywords_of_toStep (mapM_eq_ok_iff.1 hsteps)]
    exact Program.nested_of_assemble (mapError_eq_ok.1 hprogram)

/-- Statements with a literal line whose source is not balanced make no program. -/
theorem program_of_unbalanced {statements : List Statement} {l : Literal}
    (hl : .literal l ∈ statements) {p : Placeholder} (hp : p.In l.content) {t : Text}
    (ht : p.Resolves ctx t) (hbreak : '\n' ∈ t) {filled : Text}
    (hfilled : Text.Replaced (Placeholder.Fills ctx) l.content filled) (hunbalanced : ¬ filled.Balanced) :
    ∃ e, r.program ctx statements = .error e := by
  cases hsteps : r.steps ctx statements with
  | error e =>
    refine ⟨e, ?_⟩
    rw [program, hsteps]
    rfl
  | ok steps =>
    obtain ⟨step, -, hstep⟩ := exists_right_of_forall₂ (mapM_eq_ok_iff.1 hsteps) hl
    obtain ⟨s, hs, hstep⟩ := bind_eq_ok.1 hstep
    rw [if_pos (Substitution.multiline_of_resolves hs hp ht hbreak)] at hstep
    obtain ⟨nodes, hnodes, -⟩ := map_eq_ok.1 hstep
    have hsource : s.source = filled :=
      (Substitution.of_ofLine hs).source_replaced.unique hfilled fun _ _ _ h h' =>
        Placeholder.Fills.unique h h'
    exact absurd (hsource ▸ balanced_of_expand hnodes) hunbalanced

/-- A literal line whose source has several lines and is not balanced keeps the whole text from being
rendered. -/
theorem render_of_unbalanced {template : Template} {name : String} {source : Text} {s : RenderState}
    (hload : template.load r.source = .ok (name, source))
    (hcache : s.cache.Distinguishes ⟨source, r.options.bufferName⟩)
    (hdirective : ∀ before rest after,
      source ≠ before ++ SourcePart.opening ++ (rest ++ SourcePart.closing ++ after))
    {line : Text} (hline : line ∈ source.lines) (hliteral : ¬ Statement.Tagged line) {p : Placeholder}
    (hp : p.In line) {t : Text} (ht : p.Resolves (s.context.refresh s.clock.now) t) (hbreak : '\n' ∈ t)
    {filled : Text}
    (hfilled : Text.Replaced (Placeholder.Fills (s.context.refresh s.clock.now)) line filled)
    (hunbalanced : ¬ filled.Balanced) :
    ∃ e s', (r.render template).run s = (.error e, s') := by
  obtain ⟨cache, hrun⟩ := run_render_of_no_directive hload hcache hdirective
  rw [hrun]
  cases hstatements : Statement.ofLines r.options.bufferName source.lines with
  | error e => exact ⟨e, _, rfl⟩
  | ok statements =>
    obtain ⟨statement, hmem, hreads⟩ :=
      exists_right_of_forall₂ (Statement.reads_of_ofLines hstatements) hline
    cases hreads with
    | control htagged => exact absurd htagged hliteral
    | literal _ hcontent =>
      subst hcontent
      obtain ⟨e, he⟩ := program_of_unbalanced (r := r) hmem hp ht hbreak hfilled hunbalanced
      rw [ok_bind, he]
      exact ⟨e, _, rfl⟩

/-- The values of a context cannot change the block structure of a text. Under two contexts with the same
conditions its statements are refused for the same reason, or make programs of one outline; for a literal
line is one leaf, and a leaf leaves the open blocks as they are. A literal line that a value of several
lines is put into has to close its own blocks: if the line with its values in it is not balanced, the text
is not rendered, and so in particular if the value stands alone on its line and is not balanced. -/
theorem values_keep_block_structure (r : Renderer) :
    (∀ (ctx ctx' : Context) (statements : List Statement) (steps steps' : List Step),
      Statement.SameConditions ctx ctx' statements →
      r.steps ctx statements = .ok steps → r.steps ctx' statements = .ok steps' →
      (∃ fault, Program.assemble steps = .error fault ∧ Program.assemble steps' = .error fault) ∨
        ∃ p p', Program.assemble steps = .ok p ∧ Program.assemble steps' = .ok p' ∧
          p.outline = p'.outline) ∧
    (∀ (ctx : Context) (l : Literal) (step : Step),
      Statement.toStep ctx (r.expand ctx r.options.maxIncludeDepth) (.literal l) = .ok step →
      step.outline = .emit [] ∧
        ∀ a : Assembly, ∃ a', a.step step = .ok a' ∧
          a'.frames.map Frame.opening = a.frames.map Frame.opening) ∧
    ∀ (template : Template) (name : String) (source : Text) (s : RenderState),
      template.load r.source = .ok (name, source) →
      s.cache.Distinguishes ⟨source, r.options.bufferName⟩ →
      (∀ before rest after,
        source ≠ before ++ SourcePart.opening ++ (rest ++ SourcePart.closing ++ after)) →
      ∀ (p : Placeholder) (t : Text), p.Resolves (s.context.refresh s.clock.now) t → '\n' ∈ t →
        (∀ line filled, line ∈ source.lines → ¬ Statement.Tagged line → p.In line →
          Text.Replaced (Placeholder.Fills (s.context.refresh s.clock.now)) line filled →
          ¬ filled.Balanced → ∃ e s', (r.render template).run s = (.error e, s')) ∧
        (p.Written → p.raw ∈ source.lines → ¬ t.Balanced →
          ∃ e s', (r.render template).run s = (.error e, s')) := by
  refine ⟨fun ctx ctx' statements steps steps' hsame hsteps hsteps' => ?_, fun ctx l step hstep => ?_,
    fun template name source s hload hcache hdirective p t ht hbreak => ⟨?_, ?_⟩⟩
  · exact Program.assemble_of_outline_eq
      (Statement.outlines_of_toStep (mapM_eq_ok_iff.1 hsteps) (mapM_eq_ok_iff.1 hsteps') hsame)
  · have hleaf := Statement.toStep_literal hstep
    exact ⟨hleaf, Assembly.step_of_leaf hleaf⟩
  · intro line filled hline hliteral hp hfilled hunbalanced
    exact render_of_unbalanced hload hcache hdirective hline hliteral hp ht hbreak hfilled hunbalanced
  · intro hp hline hunbalanced
    have hfilled : Text.Replaced (Placeholder.Fills (s.context.refresh s.clock.now)) (p.raw ++ [])
        (t ++ []) :=
      .placeholder hp (.inl ht) .nil
    rw [List.append_nil, List.append_nil] at hfilled
    refine render_of_unbalanced hload hcache hdirective hline hp.not_tagged ?_ ht hbreak hfilled hunbalanced
    have hin := hp.in_append []
    rwa [List.append_nil] at hin

/-- A value that closes the block around it and opens another one instead. -/
theorem values_keep_block_structure_of_closing_value :
    let text := "\x7b% if x %\x7d\n\x7b\x7bv\x7d\x7d\n\x7b% end %\x7d"
    let value := "\x7b% end %\x7d\n\x7b% if x %\x7d"
    let r : Renderer := { options := {}, source := fun name => .error (.templateNotFound name) }
    let s : RenderState :=
      { context := ⟨[("v", .str value)]⟩, clock := ⟨fun _ => ⟨0, "", ""⟩, 0⟩, cache := [], programs := [] }
    ¬ Text.Balanced value.toList ∧ ∃ e s', (r.render (.given text)).run s = (.error e, s') := by
  intro text value r s
  have hunbalanced : ¬ Text.Balanced value.toList := by
    have hkeywords : Text.keywords value.toList = [.endBlock, .ifBlock] := by decide +kernel
    intro h
    have hnested := h.nested
    rw [hkeywords] at hnested
    cases hnested
  refine ⟨hunbalanced, ?_⟩
  have hscan : Placeholder.scan? "\x7b\x7bv\x7d\x7d".toList =
      some (⟨"\x7b\x7bv\x7d\x7d".toList, "v", none, []⟩, []) := by
    decide +kernel
  obtain ⟨-, -, hvalues⟩ := values_keep_block_structure r
  exact (hvalues (.given text) stringTemplate text.toList s rfl ⟨[], rfl, by decide +kernel⟩
    (SourcePart.first?_eq_none_iff.1 (by decide +kernel)) _ value.toList ⟨.str value, [], rfl, rfl, rfl⟩
    (by decide)).2 (Placeholder.scan?_eq_some_iff.1 hscan).1 (by decide +kernel) hunbalanced

/-- A value that is not balanced does not stop a rendering by itself: another value of its line can close
what it opens. -/
theorem render_accepts_values_that_close_each_other :
    ¬ ∀ (r : Renderer) (text : String) (s : RenderState) (p : Placeholder) (t : Text),
      s.cache.Distinguishes ⟨text.toList, r.options.bufferName⟩ →
      (∀ before rest after,
        text.toList ≠ before ++ SourcePart.opening ++ (rest ++ SourcePart.closing ++ after)) →
      (∃ line ∈ Text.lines text.toList, ¬ Statement.Tagged line ∧ p.In line) →
      p.Resolves (s.context.refresh s.clock.now) t → '\n' ∈ t → ¬ t.Balanced →
      ∃ e s', (r.renderString text).run s = (.error e, s') := by
  intro h
  let text := "\x7b\x7ba\x7d\x7d\x7b\x7bb\x7d\x7d"
  let value := "\x7b% if true %\x7d\nx"
  let r : Renderer := { options := {}, source := fun name => .error (.templateNotFound name) }
  let s : RenderState :=
    { context := ⟨[("a", .str value), ("b", .str "\n\x7b% end %\x7d")]⟩,
      clock := ⟨fun _ => ⟨0, "", ""⟩, 0⟩, cache := [], programs := [] }
  have hscan : Placeholder.scan? text.toList =
      some (⟨"\x7b\x7ba\x7d\x7d".toList, "a", none, []⟩, "\x7b\x7bb\x7d\x7d".toList) := by
    decide +kernel
  obtain ⟨hwritten, htext⟩ := Placeholder.scan?_eq_some_iff.1 hscan
  have hunbalanced : ¬ Text.Balanced value.toList := by
    have hkeywords : Text.keywords value.toList = [.ifBlock] := by decide +kernel
    intro h
    have hcount := h.nested.count
    rw [hkeywords] at hcount
    revert hcount
    decide
  have hpage : ((r.renderString text).run s).1.toOption = some "x" := by decide +kernel
  obtain ⟨e, s', hrun⟩ := h r text s _ value.toList ⟨[], rfl, by decide +kernel⟩
    (SourcePart.first?_eq_none_iff.1 (by decide +kernel))
    ⟨text.toList, by decide +kernel, by decide +kernel, htext ▸ hwritten.in_append _⟩
    ⟨.str value, [], rfl, rfl, rfl⟩ (by decide) hunbalanced
  rw [hrun] at hpage
  cases hpage

end Renderer

end PageTemplate
