/-
What a rendering shows of an entry that its context has under the reserved name. Substitution puts the entry
in where a placeholder asks for it; everything that comes later looks at the output instead. So as long as
no placeholder asks for the reserved name, in the template or in a source that a value makes, nobody can see
whether the context has such an entry.
-/
import PageTemplate.Proofs.Context
import PageTemplate.Proofs.Line.Compilation
import PageTemplate.Proofs.Program.Reserved
import PageTemplate.Proofs.Render.Plain
import PageTemplate.Proofs.Render.Template

namespace PageTemplate

open Statement (Reads Tagged)

variable {ctx ctx' : Context} {name : String} {line source : Text}

/-! ## Contexts -/

theorem Context.sameBut_insert (ctx : Context) (name : String) (value : Value) :
    ctx.SameBut name (ctx.insert name value) := by
  intro n hn
  rw [get?, insert, Fields.get?_insert_of_ne hn]
  rfl

namespace Context.SameBut

theorem insert (h : ctx.SameBut name ctx') (m : String) (value : Value) :
    (ctx.insert m value).SameBut name (ctx'.insert m value) := by
  intro n hn
  by_cases hm : n = m
  · subst hm
    rw [get?, get?, Context.insert, Context.insert, Fields.get?_insert_self, Fields.get?_insert_self]
  · rw [get?, get?, Context.insert, Context.insert, Fields.get?_insert_of_ne hm, Fields.get?_insert_of_ne hm]
    exact h n hn

theorem refresh (h : ctx.SameBut name ctx') (now : Reading) :
    (ctx.refresh now).SameBut name (ctx'.refresh now) :=
  ((h.insert "timestamp" _).insert "date" _).insert "iso_date" _

end Context.SameBut

/-! ## Placeholders -/

/-- No placeholder of the text asks for a name. -/
def Text.NeverAsks (name : String) (text : Text) : Prop := ∀ p : Placeholder, p.In text → p.name ≠ name

instance (name : String) (text : Text) : Decidable (text.NeverAsks name) :=
  decidable_of_iff (∀ p ∈ text.placeholders, p.name ≠ name) <| by
    simp only [Text.mem_placeholders_iff, Text.NeverAsks]

theorem Text.NeverAsks.of_infix {part text : Text} (h : text.NeverAsks name) (hpart : part <:+: text) :
    part.NeverAsks name := by
  obtain ⟨before, after, rfl⟩ := hpart
  exact fun p hp => h p (hp.of_part before after)

theorem Text.NeverAsks.of_mem_lines (h : source.NeverAsks name) (hline : line ∈ source.lines) :
    line.NeverAsks name :=
  fun p hp => h p (hp.of_mem_lines hline)

/-- A line that does not ask for a name is substituted without a look at it. -/
theorem Substitution.ofLine_sameBut (h : ctx.SameBut name ctx') (hline : line.NeverAsks name) :
    ofLine ctx' line = ofLine ctx line := by
  have hpieces : (Piece.ofLine line).mapM (Piece.resolve ctx') = (Piece.ofLine line).mapM (Piece.resolve ctx) := by
    refine mapM_congr fun piece hpiece => ?_
    cases piece with
    | text t => rfl
    | placeholder p =>
      rw [Piece.resolve, Piece.resolve, h p.name (hline p (Piece.mem_ofLine_iff.1 hpiece))]
  rw [ofLine, ofLine, hpieces]

theorem Control.substitute_sameBut (h : ctx.SameBut name ctx') {c : Control}
    (hcondition : ∀ condition, c.condition = some condition → Text.NeverAsks name condition) :
    c.substitute ctx' = c.substitute ctx := by
  unfold substitute
  split
  · rfl
  · rename_i condition heq
    rw [Substitution.ofLine_sameBut h (hcondition condition heq)]

/-! ## Sources -/

/-- The sources that are compiled for a source: itself, and what its literal lines become where a value of
several lines is put into them. -/
inductive Expands (ctx : Context) : Text → Text → Prop
  | refl (source : Text) : Expands ctx source source
  | value {source line inner : Text} {s : Substitution} :
      line ∈ source.lines → ¬ Tagged line → Substitution.ofLine ctx line = .ok s → s.multiline = true →
      Expands ctx s.source inner → Expands ctx source inner

/-- Sources among which the lines of each one stay when values are put in are all that is compiled. -/
theorem Expands.mem_of_closed {sources : List Text} {inner : Text} (h : Expands ctx source inner)
    (hclosed : ∀ t ∈ sources, ∀ line ∈ t.lines,
      ((Substitution.ofLine ctx line).toOption.all fun s => !s.multiline || s.source ∈ sources) = true)
    (hsource : source ∈ sources) : inner ∈ sources := by
  induction h with
  | refl => exact hsource
  | value hline _ hs hmultiline _ ih =>
    have hstays := hclosed _ hsource _ hline
    rw [hs] at hstays
    refine ih ?_
    simpa [Except.toOption, hmultiline] using hstays

theorem Statement.toStep_sameBut {expand expand' : Text → Except TemplateError (List Node)}
    {statement : Statement} (h : ctx.SameBut name ctx') (hreads : Reads line statement)
    (hline : line.NeverAsks name)
    (hexpand : ∀ s, ¬ Tagged line → Substitution.ofLine ctx line = .ok s → s.multiline = true →
      expand' s.source = expand s.source) :
    statement.toStep ctx' expand' = statement.toStep ctx expand := by
  cases hreads with
  | @literal l hliteral hcontent =>
    subst hcontent
    rw [toStep, toStep, Substitution.ofLine_sameBut h hline]
    cases hs : Substitution.ofLine ctx l.content with
    | error => rfl
    | ok s =>
      rw [ok_bind, ok_bind]
      split_ifs with hmultiline
      · rw [hexpand s hliteral hs hmultiline]
      · rfl
  | control _ hread =>
    rw [toStep, toStep, Control.substitute_sameBut h fun condition hcondition => ?_]
    rw [hcondition] at hread
    exact hline.of_infix (infix_of_readControl hread)

/-- The steps of a source are the same where those of the sources are that its values make. -/
theorem Statement.mapM_toStep_sameBut {expand expand' : Text → Except TemplateError (List Node)}
    {statements : List Statement} (h : ctx.SameBut name ctx') (hreads : List.Forall₂ Reads source.lines statements)
    (hsource : source.NeverAsks name)
    (hexpand : ∀ inner, (∀ t, Expands ctx inner t → Expands ctx source t) → expand' inner = expand inner) :
    statements.mapM (toStep ctx' expand') = statements.mapM (toStep ctx expand) := by
  refine mapM_congr fun statement hstatement => ?_
  obtain ⟨line, hline, hread⟩ := exists_right_of_forall₂ hreads.flip hstatement
  exact toStep_sameBut h hread (hsource.of_mem_lines hline) fun s hliteral hs hmultiline =>
    hexpand s.source fun t ht => .value hline hliteral hs hmultiline ht

namespace Renderer

variable {r : Renderer}

theorem expand_sameBut (h : ctx.SameBut name ctx') :
    ∀ {levels : Nat} {source : Text}, (∀ inner, Expands ctx source inner → inner.NeverAsks name) →
      r.expand ctx' levels source = r.expand ctx levels source
  | 0, _, _ => rfl
  | levels + 1, source, hsources => by
    rw [expand, expand]
    cases hstatements : Statement.ofLines r.options.bufferName source.lines with
    | error => rw [error_bind, error_bind]
    | ok statements =>
      have hsteps : statements.mapM (Statement.toStep ctx' (r.expand ctx' levels)) =
          statements.mapM (Statement.toStep ctx (r.expand ctx levels)) :=
        Statement.mapM_toStep_sameBut h (Statement.reads_of_ofLines hstatements)
          (hsources source (.refl source)) fun inner hinner =>
            expand_sameBut h fun t ht => hsources t (hinner t ht)
      rw [ok_bind, ok_bind, hsteps]

/-- Statements of a source make the same program. -/
theorem program_sameBut (h : ctx.SameBut name ctx') {statements : List Statement}
    (hreads : List.Forall₂ Reads source.lines statements)
    (hsources : ∀ inner, Expands ctx source inner → inner.NeverAsks name) :
    r.program ctx' statements = r.program ctx statements := by
  have hsteps : r.steps ctx' statements = r.steps ctx statements :=
    Statement.mapM_toStep_sameBut h hreads (hsources source (.refl source)) fun inner hinner =>
      expand_sameBut h fun t ht => hsources t (hinner t ht)
  rw [program, program, hsteps]

theorem written_sameBut (h : ctx.SameBut r.options.bufferName ctx') (program : Program) :
    r.written ctx' program = r.written ctx program := by
  rw [written, written, program.evaluate_reserved h]

/-! ## Whole renderings -/

/-- An entry under the reserved name is hidden from a text whose placeholders do not ask for it, whatever its
conditions, its loops and its deferred placeholders say: with any other such entry, or with none, the text
gives the same page, or fails with the same error. -/
theorem renderString_hides_reserved_entry (r : Renderer) (text : String) (s : RenderState) (ctx' : Context)
    (hcache : s.cache.Distinguishes ⟨text.toList, r.options.bufferName⟩)
    (hdirective : ∀ before rest after,
      text.toList ≠ before ++ SourcePart.opening ++ (rest ++ SourcePart.closing ++ after))
    (hsame : s.context.SameBut r.options.bufferName ctx')
    (hsources : ∀ source, Expands (s.context.refresh s.clock.now) text.toList source →
      source.NeverAsks r.options.bufferName) :
    ((r.renderString text).run { s with context := ctx' }).1 = ((r.renderString text).run s).1 := by
  have hnow := hsame.refresh s.clock.now
  have hload : (Template.given text).load r.source = .ok (stringTemplate, text.toList) := rfl
  obtain ⟨cache, hrun⟩ := run_render_of_no_directive hload hcache hdirective
  obtain ⟨cache', hrun'⟩ :=
    run_render_of_no_directive (s := { s with context := ctx' }) hload hcache hdirective
  show ((r.render (.given text)).run _).1 = ((r.render (.given text)).run s).1
  rw [hrun, hrun']
  dsimp only
  cases hstatements : Statement.ofLines r.options.bufferName (Text.lines text.toList) with
  | error => rw [error_bind, error_bind]
  | ok statements =>
    rw [ok_bind, ok_bind, program_sameBut hnow (Statement.reads_of_ofLines hstatements) hsources]
    cases r.program (s.context.refresh s.clock.now) statements with
    | error => rfl
    | ok program =>
      dsimp only
      rw [written_sameBut hnow]

/-- A loop over the output, behind a value of two lines. -/
theorem renderString_hides_reserved_entry_of_loop :
    let text := "\x7b\x7bv\x7d\x7d\n\x7b% for x in output %\x7d\n\x7b\x7bx\x7d\x7d!\n\x7b% end %\x7d"
    let r : Renderer := { options := {}, source := fun name => .error (.templateNotFound name) }
    let s : RenderState :=
      { context := ⟨[("v", .str "a\nb")]⟩, clock := ⟨fun _ => ⟨0, "", ""⟩, 0⟩, cache := [], programs := [] }
    let ctx' := s.context.insert "output" (.str "x")
    (∀ source, Expands (s.context.refresh s.clock.now) text.toList source → source.NeverAsks "output") ∧
      ((r.renderString text).run { s with context := ctx' }).1 = .ok "a\nb\na!\nb!" := by
  intro text r s ctx'
  have hsources : ∀ source, Expands (s.context.refresh s.clock.now) text.toList source →
      source.NeverAsks "output" := by
    have hclosed : ∀ t ∈ [text.toList, "a\nb".toList], ∀ line ∈ Text.lines t,
        ((Substitution.ofLine (s.context.refresh s.clock.now) line).toOption.all fun sub =>
          !sub.multiline || sub.source ∈ [text.toList, "a\nb".toList]) = true := by
      decide +kernel
    have hasks : ∀ t ∈ [text.toList, "a\nb".toList], Text.NeverAsks "output" t := by decide +kernel
    exact fun source h => hasks source (h.mem_of_closed hclosed List.mem_cons_self)
  have hpage : ((r.renderString text).run s).1.toOption = some "a\nb\na!\nb!" := by decide +kernel
  have hsame := renderString_hides_reserved_entry r text s ctx' ⟨[], rfl, by decide +kernel⟩
    (SourcePart.first?_eq_none_iff.1 (by decide +kernel)) (Context.sameBut_insert _ _ _) hsources
  refine ⟨hsources, hsame.trans ?_⟩
  rcases hrun : ((r.renderString text).run s).1 with _ | page <;> rw [hrun] at hpage <;> cases hpage
  rfl

/-- A placeholder that asks for the reserved name shows the entry of the context. -/
theorem renderString_shows_reserved_entry :
    ¬ ∀ (r : Renderer) (text : String) (s : RenderState) (ctx' : Context),
      s.cache.Distinguishes ⟨text.toList, r.options.bufferName⟩ →
      (∀ before rest after,
        text.toList ≠ before ++ SourcePart.opening ++ (rest ++ SourcePart.closing ++ after)) →
      r.options.bufferName ∉ Context.timeNames → s.context.SameBut r.options.bufferName ctx' →
      ((r.renderString text).run { s with context := ctx' }).1 = ((r.renderString text).run s).1 := by
  intro h
  let text := "\x7b\x7boutput\x7d\x7d"
  let r : Renderer := { options := {}, source := fun name => .error (.templateNotFound name) }
  let s : RenderState :=
    { context := ⟨[]⟩, clock := ⟨fun _ => ⟨0, "", ""⟩, 0⟩, cache := [], programs := [] }
  have hsame := h r text s (s.context.insert "output" (.str "x")) ⟨[], rfl, by decide +kernel⟩
    (SourcePart.first?_eq_none_iff.1 (by decide +kernel)) (by decide) (Context.sameBut_insert _ _ _)
  have hpages : ((r.renderString text).run { s with context := s.context.insert "output" (.str "x") }).1.toOption ≠
      ((r.renderString text).run s).1.toOption := by
    decide +kernel
  exact hpages (congrArg Except.toOption hsame)

end Renderer

end PageTemplate
