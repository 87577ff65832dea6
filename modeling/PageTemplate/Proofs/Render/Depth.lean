/-
The bound on nesting: it decides only whether a rendering is finished, never what is on the page. A
rendering under a greater bound is the same in all that it does, unless the smaller bound stops it; so a
finished page stays as it is when the bound grows, and an error that goes away was one of the bound.

The bound is looked at in two places, by values of several lines and by includes, and both count down
from it. The induction in each is on the levels that are left under the smaller bound.
-/
import PageTemplate.Proofs.Render.Comparison
import PageTemplate.Source.Library

namespace PageTemplate

/-- The errors that a bound on nesting causes. -/
inductive TemplateError.OfDepth (d : Nat) : TemplateError → Prop
  | values : OfDepth d (.evaluation (.valuesNestedDeeper d))
  | includes (name : String) : OfDepth d (.inclusion name (.nestedDeeper d))

namespace Renderer

open RenderState (Later)
open TemplateError (OfDepth)

/-- The same renderer with another bound on nesting. -/
def withDepth (r : Renderer) (d : Nat) : Renderer :=
  { r with options := { r.options with maxIncludeDepth := d } }

variable {r : Renderer} {d d' : Nat}

/-! ## Values of several lines -/

theorem toStep_sameUnless {P : TemplateError → Prop} {ctx : Context}
    {expand expand' : Text → Except TemplateError (List Node)}
    (h : ∀ source, SameUnless P (expand source) (expand' source)) (statement : Statement) :
    SameUnless P (statement.toStep ctx expand) (statement.toStep ctx expand') := by
  cases statement with
  | control c => exact .refl _
  | literal l =>
    refine (SameUnless.refl (Substitution.ofLine ctx l.content)).bind fun s => ?_
    split
    · exact (h s.source).map Step.block
    · exact .refl _

theorem expand_withDepth {ctx : Context} :
    ∀ {levels levels' : Nat}, levels ≤ levels' → ∀ source : Text,
      SameUnless (OfDepth d) ((r.withDepth d).expand ctx levels source)
        ((r.withDepth d').expand ctx levels' source)
  | 0, _, _, _ => .inl ⟨_, rfl, .values⟩
  | levels + 1, levels' + 1, h, source => by
    rw [expand, expand]
    refine (SameUnless.refl (Statement.ofLines r.options.bufferName source.lines)).bind fun statements => ?_
    refine SameUnless.bind (SameUnless.mapM fun statement _ => ?_) fun steps => .refl _
    exact toStep_sameUnless (expand_withDepth (Nat.le_of_succ_le_succ h)) statement

theorem program_withDepth (h : d ≤ d') (ctx : Context) (statements : List Statement) :
    SameUnless (OfDepth d) ((r.withDepth d).program ctx statements)
      ((r.withDepth d').program ctx statements) := by
  refine SameUnless.bind (SameUnless.mapM fun statement _ => ?_) fun steps => .refl _
  exact toStep_sameUnless (expand_withDepth h) statement

/-! ## Includes -/

theorem page_withDepth (h : d ≤ d') {n : Nat} (name : String) (source : Text) :
    Agree (OfDepth d) (Later n) ((r.withDepth d).page name source) ((r.withDepth d').page name source) :=
  page_agree rfl (program_withDepth h)

theorem included_withDepth (h : d ≤ d') {n : Nat} :
    ∀ {levels levels' : Nat}, levels ≤ levels' → ∀ (chain : List String) (name : String),
      Agree (OfDepth d) (Later n) ((r.withDepth d).included levels chain name)
        ((r.withDepth d').included levels' chain name)
  | 0, levels', _, chain, name => by
    intro s t hst
    -- a name that is refused is refused under any bound, and before the bound is looked at
    cases hcheck : checkInclusion chain name with
    | ok =>
      refine .inl ⟨.inclusion name (.nestedDeeper d), ?_, .includes name⟩
      rw [included, hcheck]
      rfl
    | error e =>
      refine .inr ?_
      cases levels' with
      | zero | succ => rw [included, included, hcheck]; exact ⟨rfl, hst⟩
  | levels + 1, levels' + 1, hlevels, chain, name => by
    rw [included, included]
    refine (Agree.lift (.refl _)).bind fun _ => (Agree.lift (.refl _)).bind fun text => ?_
    refine renderSource_agree (page_withDepth h name) fun m _ => ?_
    exact included_withDepth h (Nat.le_of_succ_le_succ hlevels) _ m

theorem renderRoot_withDepth (h : d ≤ d') {n : Nat} (name : String) (source : Text) :
    Agree (OfDepth d) (Later n) ((r.withDepth d).renderRoot name source)
      ((r.withDepth d').renderRoot name source) :=
  renderSource_agree (page_withDepth h name) fun m _ => included_withDepth h h _ m

/-! ## Whole renderings -/

theorem render_withDepth (h : d ≤ d') {n : Nat} (template : Template) :
    Agree (OfDepth d) (Later n) ((r.withDepth d).render template) ((r.withDepth d').render template) := by
  rw [render_eq, render_eq]
  refine (Agree.lift (.refl _)).bind fun loaded => ?_
  exact (renderRoot_withDepth h loaded.1 loaded.2).bind fun page => Agree.lift (.refl _)

/-- Where a rendering is finished under a bound, it is the same one under every greater bound, page and
state; where it fails, it fails in the same way under every greater bound, or by the smaller bound
alone. So two bounds that let a page be finished give the same page. -/
theorem render_unchanged_by_depth (r : Renderer) (template : Template) (s : RenderState) :
    (∀ d d' page s', d ≤ d' → ((r.withDepth d).render template).run s = (.ok page, s') →
      ((r.withDepth d').render template).run s = (.ok page, s')) ∧
    (∀ d d' e s', d ≤ d' → ((r.withDepth d).render template).run s = (.error e, s') →
      e.OfDepth d ∨ ((r.withDepth d').render template).run s = (.error e, s')) ∧
    (∀ d d' page page' s' s'', ((r.withDepth d).render template).run s = (.ok page, s') →
      ((r.withDepth d').render template).run s = (.ok page', s'') → page = page' ∧ s' = s'') := by
  have hok : ∀ d d' page s', d ≤ d' → ((r.withDepth d).render template).run s = (.ok page, s') →
      ((r.withDepth d').render template).run s = (.ok page, s') := by
    intro d d' page s' h hrun
    obtain ⟨s'', hrun', hs⟩ :=
      (render_withDepth h template).run_eq_ok (RenderState.later_zero_iff.2 rfl) hrun
    rw [hrun', RenderState.later_zero_iff.1 hs]
  refine ⟨hok, fun d d' e s' h hrun => ?_, fun d d' page page' s' s'' hrun hrun' => ?_⟩
  · rcases (render_withDepth h template).run_eq_error (RenderState.later_zero_iff.2 rfl) hrun with
      he | ⟨s'', hrun', hs⟩
    · exact .inl he
    · rw [hrun', RenderState.later_zero_iff.1 hs]
      exact .inr rfl
  · rcases Nat.le_total d d' with h | h
    · have hsame := hok d d' page s' h hrun
      rw [hsame] at hrun'
      cases hrun'
      exact ⟨rfl, rfl⟩
    · have hsame := hok d' d page' s'' h hrun'
      rw [hsame] at hrun
      cases hrun
      exact ⟨rfl, rfl⟩

/-- An included template with a value of several lines inside another one: two levels are enough, more
change nothing, and with one level only the bound is in the way. -/
theorem render_unchanged_by_depth_of_nested_values :
    let r : Renderer :=
      { options := {},
        source := Library.source [("page", "\x7b% include part %\x7d"), ("part", "\x7b\x7bv\x7d\x7d")] }
    let s : RenderState :=
      { context := ⟨[("v", .str "x\n\x7b\x7bw\x7d\x7d"), ("w", .str "y\nz")]⟩,
        clock := ⟨fun _ => ⟨0, "", ""⟩, 0⟩, cache := [], programs := [] }
    (∃ s', ((r.withDepth 2).render (.named "page")).run s = (.ok "x\ny\nz", s') ∧
      ((r.withDepth 7).render (.named "page")).run s = (.ok "x\ny\nz", s')) ∧
    ∃ e s', ((r.withDepth 1).render (.named "page")).run s = (.error e, s') ∧ e.OfDepth 1 := by
  intro r s
  obtain ⟨hmore, hless, -⟩ := render_unchanged_by_depth r (.named "page") s
  have htwo : (((r.withDepth 2).render (.named "page")).run s).1.toOption = some "x\ny\nz" := by
    decide +kernel
  have hone : (((r.withDepth 1).render (.named "page")).run s).1.toOption = none := by decide +kernel
  rcases hrun : ((r.withDepth 2).render (.named "page")).run s with ⟨_ | page, s'⟩ <;> rw [hrun] at htwo
  · cases htwo
  · cases htwo
    refine ⟨⟨s', rfl, hmore 2 7 _ s' (by decide) hrun⟩, ?_⟩
    rcases hrun' : ((r.withDepth 1).render (.named "page")).run s with ⟨e | page', s''⟩ <;>
      rw [hrun'] at hone
    · refine ⟨e, s'', rfl, ?_⟩
      rcases hless 1 2 e s'' (by decide) hrun' with he | hrun''
      · exact he
      · rw [hrun] at hrun''; cases hrun''
    · cases hone

end Renderer

end PageTemplate
