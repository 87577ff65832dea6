/-
What stands in place of directives. The directives of a source are met from the first to the last, and each is
replaced by a page that is rendered in the state that the pages in front of it have left. So from a state on
a source is filled in one way only, and a template has one page at most. Main results: the page of a template
is that of its filled source; and a template that has no page has failed with its filled source, or by a page
that it asked for, in the state in which it came to that directive.

All inductions are on the source, directive by directive; of the computation that renders the pages they need
to know only that it answers pages of templates.
-/
import PageTemplate.Proofs.Render.Template

namespace PageTemplate.Renderer

open SourcePart (opening closing)
open Text (FirstPlace)

/-- A source with pages in place of its directives, from a state to the one that it leaves. Each page is that
of a template whose own source has been treated likewise; it is not looked at again. -/
inductive Filled (r : Renderer) : RenderState → Text → Text → RenderState → Prop
  | none {s : RenderState} {source : Text} :
      (∀ before name after, source ≠ before ++ opening ++ (name ++ closing ++ after)) →
      Filled r s source source s
  | first {s t t' s' : RenderState} {source before rest name after inner page filled : Text} {text : String} :
      FirstPlace opening source before rest → FirstPlace closing rest name after →
      r.source (String.ofList name.trim) = .ok text → Filled r s.refreshed text.toList inner t →
      (r.page (String.ofList name.trim) inner).run t = (.ok page, t') →
      Filled r t' after filled s' → Filled r s source (before ++ (page ++ filled)) s'

/-- The page of a template, rendered from a state on, comes from its filled source. -/
def PageOf (r : Renderer) (s : RenderState) (name : String) (source page : Text) (s' : RenderState) : Prop :=
  ∃ filled t, r.Filled s.refreshed source filled t ∧ (r.page name filled).run t = (.ok page, s')

/-- With pages in place of the directives in front of it, a source that is filled from the first state on comes
to the directive for a name in the second one. -/
inductive Asks (r : Renderer) : RenderState → Text → RenderState → String → Prop
  | first {s : RenderState} {source before rest name after : Text} :
      FirstPlace opening source before rest → FirstPlace closing rest name after →
      Asks r s source s (String.ofList name.trim)
  | later {s t u : RenderState} {source before rest name after page : Text} {text m : String} :
      FirstPlace opening source before rest → FirstPlace closing rest name after →
      r.source (String.ofList name.trim) = .ok text →
      r.PageOf s (String.ofList name.trim) text.toList page t → Asks r t after u m → Asks r s source u m

/-- What a computation answers for a name is the page of the template of this name. -/
def RendersPages (r : Renderer) (f : String → Render Text) : Prop :=
  ∀ m page s s', (f m).run s = (.ok page, s') →
    ∃ text, r.source m = .ok text ∧ r.PageOf s m text.toList page s'

variable {r : Renderer} {s s' t t' : RenderState} {source filled filled' page page' : Text} {name m : String}
  {e : TemplateError}

/-! ## One way only -/

/-- From a state on a source is filled in one way only. -/
theorem Filled.unique (h : r.Filled s source filled t) (h' : r.Filled s source filled' t') :
    filled = filled' ∧ t = t' := by
  induction h generalizing filled' t' with
  | none hnone =>
    cases h' with
    | none => exact ⟨rfl, rfl⟩
    | first hopen hclose => exact absurd (hclose.whole ▸ hopen.whole) (hnone _ _ _)
  | first hopen hclose htext _ hpage _ ihinner ihafter =>
    cases h' with
    | none hnone => exact absurd (hclose.whole ▸ hopen.whole) (hnone _ _ _)
    | first hopen' hclose' htext' hinner' hpage' hafter' =>
      have hfirst := SourcePart.first?_of_firstPlace hopen hclose
      rw [SourcePart.first?_of_firstPlace hopen' hclose'] at hfirst
      simp only [Option.some.injEq, Prod.mk.injEq] at hfirst
      obtain ⟨rfl, hname, rfl⟩ := hfirst
      rw [hname, htext] at htext'
      cases htext'
      obtain ⟨rfl, rfl⟩ := ihinner hinner'
      rw [hname, hpage] at hpage'
      cases hpage'
      obtain ⟨rfl, rfl⟩ := ihafter hafter'
      exact ⟨rfl, rfl⟩

/-- From a state on a template has one page, and it is left in one state. -/
theorem PageOf.unique (h : r.PageOf s name source page t) (h' : r.PageOf s name source page' t') :
    page = page' ∧ t = t' := by
  obtain ⟨filled, u, hfilled, hpage⟩ := h
  obtain ⟨filled', u', hfilled', hpage'⟩ := h'
  obtain ⟨rfl, rfl⟩ := hfilled.unique hfilled'
  rw [hpage] at hpage'
  cases hpage'
  exact ⟨rfl, rfl⟩

/-- A source asks for the templates of its directives. -/
theorem Asks.mem_inclusions (h : r.Asks s source t m) : m ∈ SourcePart.inclusions source := by
  rw [SourcePart.mem_inclusions]
  induction h with
  | first hopen hclose =>
    rw [SourcePart.ofSource_of_first? (SourcePart.first?_of_firstPlace hopen hclose)]
    exact ⟨_, by simp, rfl⟩
  | later hopen hclose _ _ _ ih =>
    obtain ⟨name, hname, heq⟩ := ih
    rw [SourcePart.ofSource_of_first? (SourcePart.first?_of_firstPlace hopen hclose)]
    exact ⟨name, by simp [hname], heq⟩

/-! ## The pages of a source -/

section

variable {f : String → Render Text} (hf : r.RendersPages f)
include hf

/-- Where every directive has its page, the source is filled with them. -/
theorem filled_of_mapM {parts : List Text}
    (h : ((SourcePart.ofSource source).mapM (SourcePart.fill f)).run s = (.ok parts, s')) :
    r.Filled s source parts.flatten s' := by
  fun_induction SourcePart.ofSource source generalizing s parts with
  | case1 source before name after hfirst ih =>
    obtain ⟨rest, inner, hopen, hclose, rfl⟩ := SourcePart.first?_eq_some_iff.1 hfirst
    rw [List.mapM_cons, List.mapM_cons] at h
    obtain ⟨t, s₁, ht, h⟩ := run_bind_eq_ok h
    obtain ⟨ps, s₂, hps, h⟩ := run_bind_eq_ok h
    obtain ⟨page, s₃, hpage, hrest⟩ := run_bind_eq_ok hps
    obtain ⟨parts', s₄, hparts, hend⟩ := run_bind_eq_ok hrest
    cases ht
    cases hend
    cases h
    obtain ⟨text, htext, filled, s₅, hfilled, hrun⟩ := hf _ _ _ _ hpage
    exact .first hopen hclose htext hfilled hrun (ih hparts)
  | case2 source hnone =>
    cases h
    show r.Filled s' source [source].flatten s'
    rw [List.flatten_singleton]
    exact .none (SourcePart.first?_eq_none_iff.1 hnone)

/-- Where a page is missing, the source has come to a directive whose page cannot be had. -/
theorem exists_asks_of_mapM
    (h : ((SourcePart.ofSource source).mapM (SourcePart.fill f)).run s = (.error e, s')) :
    ∃ t m, r.Asks s source t m ∧ (f m).run t = (.error e, s') := by
  fun_induction SourcePart.ofSource source generalizing s with
  | case1 source before name after hfirst ih =>
    obtain ⟨rest, inner, hopen, hclose, rfl⟩ := SourcePart.first?_eq_some_iff.1 hfirst
    rw [List.mapM_cons, List.mapM_cons] at h
    rcases run_bind_eq_error h with h | ⟨t, s₁, ht, h⟩
    · cases h
    cases ht
    rcases run_bind_eq_error h with h | ⟨_, _, -, h⟩
    · rcases run_bind_eq_error h with hpage | ⟨page, s₂, hpage, h⟩
      · exact ⟨s, _, .first hopen hclose, hpage⟩
      · rcases run_bind_eq_error h with hparts | ⟨_, _, -, h⟩
        · obtain ⟨text, htext, hpageOf⟩ := hf _ _ _ _ hpage
          obtain ⟨u, m, hasks, hfails⟩ := ih hparts
          exact ⟨u, m, .later hopen hclose htext hpageOf hasks, hfails⟩
        · cases h
    · cases h
  | case2 source hnone => cases h

end

/-! ## One template -/

section

variable {inner : List String → String → Render Text} {chain : List String}
  (hinner : r.RendersPages (inner (chain ++ [name])))
include hinner

/-- The page of a template is that of its filled source. -/
theorem pageOf_of_renderSource (h : (r.renderSource inner chain name source).run s = (.ok page, s')) :
    r.PageOf s name source page s' := by
  rw [run_renderSource] at h
  obtain ⟨parts, t, hparts, hpage⟩ := run_bind_eq_ok h
  exact ⟨parts.flatten, t, filled_of_mapM hinner hparts, hpage⟩

/-- A template fails with its filled source, or by a page that it asks for. -/
theorem renderSource_eq_error (h : (r.renderSource inner chain name source).run s = (.error e, s')) :
    (∃ filled t, r.Filled s.refreshed source filled t ∧ (r.page name filled).run t = (.error e, s')) ∨
      ∃ t m, r.Asks s.refreshed source t m ∧ (inner (chain ++ [name]) m).run t = (.error e, s') := by
  rw [run_renderSource] at h
  rcases run_bind_eq_error h with hparts | ⟨parts, t, hparts, hpage⟩
  · exact .inr (exists_asks_of_mapM hinner hparts)
  · exact .inl ⟨parts.flatten, t, filled_of_mapM hinner hparts, hpage⟩

end

end PageTemplate.Renderer
