/-
Two renderings of one template side by side, by renderers whose settings may differ, inside chains of
templates that may differ, at times that may differ. They agree as soon as they agree on what is made of
statements and on the pages of the includes; the clock counts only through what it shows. What holds of the
states before and after a rendering is said likewise, of the look at the clock and of pages.
-/
import PageTemplate.Proofs.Agreement
import PageTemplate.Proofs.Context
import PageTemplate.Proofs.Render.Directives
import PageTemplate.Proofs.Render.Template

namespace PageTemplate

/-- The second state is the first one with `n` more readings used up, of a clock that stands still unless
`n` is zero. -/
structure RenderState.Later (n : Nat) (s t : RenderState) : Prop where
  state : t = { s with clock := { s.clock with used := s.clock.used + n } }
  still : n = 0 ∨ ∀ i, s.clock.reading i = s.clock.reading 0

theorem RenderState.later_zero_iff {s t : RenderState} : Later 0 s t ↔ s = t := by
  constructor
  · rintro ⟨rfl, -⟩; rfl
  · rintro rfl; exact ⟨rfl, .inl rfl⟩

/-- Where the clock stands still, a second look at it only uses up a reading. -/
theorem RenderState.later_refreshed {s : RenderState} (hstill : ∀ i, s.clock.reading i = s.clock.reading 0) :
    Later 1 s.refreshed s.refreshed.refreshed := by
  refine ⟨?_, .inr hstill⟩
  have hnow : s.refreshed.clock.now = s.clock.now := (hstill _).trans (hstill _).symm
  have hcontext : s.refreshed.context.refresh s.refreshed.clock.now = s.refreshed.context := by
    rw [hnow]
    exact s.context.refresh_refresh s.clock.now s.clock.now
  show RenderState.mk (s.refreshed.context.refresh s.refreshed.clock.now) _ _ _ = _
  rw [hcontext]
  rfl

namespace Renderer

open RenderState (Later)

variable {P : TemplateError → Prop} {n : Nat} {r r' : Renderer}
  {inner inner' : List String → String → Render Text} {chain chain' : List String} {name : String}
  {source : Text}

theorem refreshClock_agree : Agree P (Later n) refreshClock refreshClock := by
  rintro s _ ⟨rfl, hstill⟩
  have hnow : s.clock.reading (s.clock.used + n) = s.clock.reading s.clock.used := by
    rcases hstill with rfl | hstill
    · rfl
    · exact (hstill _).trans (hstill _).symm
  have hused : s.clock.used + n + 1 = s.clock.used + 1 + n := by omega
  refine .inr ⟨rfl, ?_, hstill⟩
  show RenderState.mk (s.context.refresh (s.clock.reading (s.clock.used + n)))
    ⟨s.clock.reading, s.clock.used + n + 1⟩ s.cache s.programs = _
  rw [hnow, hused]
  rfl

theorem page_agree (hbuffer : r'.options.bufferName = r.options.bufferName)
    (hprogram : ∀ ctx statements, SameUnless P (r.program ctx statements) (r'.program ctx statements)) :
    Agree P (Later n) (r.page name source) (r'.page name source) := by
  rintro s _ ⟨rfl, hstill⟩
  have hprograms := (SameUnless.refl (s.cache.statements name source r.options.bufferName).1).bind
    (hprogram s.context)
  rw [run_page, run_page, hbuffer]
  dsimp only
  rcases hprograms with ⟨e, he, hP⟩ | heq
  · rw [he]
    exact .inl ⟨e, rfl, hP⟩
  · rw [← heq]
    cases (s.cache.statements name source r.options.bufferName).1 >>= r.program s.context with
    | error e => exact .inr ⟨rfl, rfl, hstill⟩
    | ok program =>
      refine .inr ⟨?_, rfl, hstill⟩
      show r.written s.context program = r'.written s.context program
      unfold written
      rw [hbuffer]

theorem filledPage_agree
    (hpage : ∀ filled, Agree P (Later n) (r.page name filled) (r'.page name filled))
    (hinner : ∀ m ∈ SourcePart.inclusions source,
      Agree P (Later n) (inner (chain ++ [name]) m) (inner' (chain' ++ [name]) m)) :
    Agree P (Later n) (r.filledPage inner chain name source)
      (r'.filledPage inner' chain' name source) := by
  refine Agree.bind (Agree.mapM fun part hpart => ?_) fun parts => hpage _
  cases part with
  | text t => exact Agree.pure t
  | inclusion t => exact hinner _ (SourcePart.mem_inclusions.2 ⟨t, hpart, rfl⟩)

/-- A template agrees with itself if its page and the pages of its directives do. -/
theorem renderSource_agree
    (hpage : ∀ filled, Agree P (Later n) (r.page name filled) (r'.page name filled))
    (hinner : ∀ m ∈ SourcePart.inclusions source,
      Agree P (Later n) (inner (chain ++ [name]) m) (inner' (chain' ++ [name]) m)) :
    Agree P (Later n) (r.renderSource inner chain name source)
      (r'.renderSource inner' chain' name source) :=
  refreshClock_agree.bind fun _ => filledPage_agree hpage hinner

/-! ## States before and after -/

section

variable {R : RenderState → RenderState → Prop} (hrefl : ∀ s, R s s)
  (htrans : ∀ s t u, R s t → R t u → R s u)
include hrefl

theorem fill_leads (hinner : ∀ m ∈ SourcePart.inclusions source, Leads R (inner (chain ++ [name]) m)) :
    ∀ part ∈ SourcePart.ofSource source, Leads R (part.fill (inner (chain ++ [name]))) := by
  intro part hpart
  cases part with
  | text t => exact hrefl
  | inclusion t => exact hinner _ (SourcePart.mem_inclusions.2 ⟨t, hpart, rfl⟩)

include htrans

theorem filledPage_leads (hpage : ∀ filled, Leads R (r.page name filled))
    (hinner : ∀ m ∈ SourcePart.inclusions source, Leads R (inner (chain ++ [name]) m)) :
    Leads R (r.filledPage inner chain name source) :=
  Leads.bind htrans (Leads.mapM hrefl htrans (fill_leads hrefl hinner)) fun _ => hpage _

/-- What the look at the clock and the pages of templates lead to, an included template leads to. The
templates can be kept to those that are `good`, if these include none but good ones. -/
theorem included_leads (good : String → Prop) (hrefresh : Leads R refreshClock)
    (hgood : ∀ n text, good n → r.source n = .ok text → ∀ m ∈ SourcePart.inclusions text.toList, good m)
    (hpage : ∀ n, good n → ∀ filled, Leads R (r.page n filled)) :
    ∀ {levels : Nat} {chain : List String} {name : String}, good name →
      Leads R (r.included levels chain name)
  | 0, chain, name, _ => by
    rw [included]
    exact (Leads.lift hrefl _).bind htrans fun _ => hrefl
  | levels + 1, chain, name, h => by
    rw [included]
    refine (Leads.lift hrefl _).bind htrans fun _ => ?_
    cases htext : r.source name with
    | error e => exact hrefl
    | ok text =>
      refine hrefresh.bind htrans fun _ => filledPage_leads hrefl htrans (hpage name h) fun m hm => ?_
      exact included_leads good hrefresh hgood hpage (hgood name text h htext m hm)

/-- What the look at the clock and the pages of templates lead to, a whole rendering leads to. -/
theorem render_leads (hrefresh : Leads R refreshClock)
    (hpage : ∀ n filled, Leads R (r.page n filled)) (template : Template) : Leads R (r.render template) := by
  rw [render_eq]
  refine (Leads.lift hrefl _).bind htrans fun loaded => ?_
  refine Leads.bind htrans (hrefresh.bind htrans fun _ => ?_) fun page => Leads.lift hrefl _
  refine filledPage_leads hrefl htrans (hpage loaded.1) fun m _ => ?_
  exact included_leads hrefl htrans (fun _ => True) hrefresh (fun _ _ _ _ _ _ => trivial)
    (fun n _ => hpage n) trivial

end

end Renderer

end PageTemplate
