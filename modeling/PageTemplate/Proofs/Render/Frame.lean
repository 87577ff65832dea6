/-
What a rendering leaves behind in its context. However it ends, and whatever it includes on its way, nothing
but the time is new there; and if the template cannot be loaded, not even that.

All templates of a rendering work on one context, so what is kept has to be kept by each of them. The
invariant is stronger than the result: the context is always the one at the start, or that one with the
time of a single reading, since a later reading leaves nothing of an earlier one.
-/
import PageTemplate.Proofs.Render.Comparison
import PageTemplate.Render.Saving

namespace PageTemplate

/-- Nothing but the time is different in the second context: all other names have their values, all names
keep their places, and the names of the time that were missing stand behind them. -/
structure Context.SameButTime (ctx ctx' : Context) : Prop where
  values : ∀ name ∉ timeNames, ctx'.get? name = ctx.get? name
  names : ctx'.names = ctx.names ++ timeNames.filter (· ∉ ctx.names)

/-- The second state comes after the first one: its clock has the same readings, and its context is the
same one, or has the time of one of them. -/
structure RenderState.Follows (s t : RenderState) : Prop where
  clock : t.clock.reading = s.clock.reading
  context : t.context = s.context ∨ ∃ i, t.context = s.context.refresh (s.clock.reading i)

namespace RenderState

theorem Follows.refl (s : RenderState) : s.Follows s := ⟨rfl, .inl rfl⟩

theorem Follows.trans (s t u : RenderState) (h : s.Follows t) (h' : t.Follows u) : s.Follows u := by
  refine ⟨h'.clock.trans h.clock, ?_⟩
  rcases h'.context with hcontext | ⟨i, hcontext⟩
  · rw [hcontext]
    exact h.context
  · refine .inr ⟨i, ?_⟩
    rw [hcontext, h.clock]
    rcases h.context with hfirst | ⟨j, hfirst⟩ <;> rw [hfirst]
    exact Context.refresh_refresh _ _ _

theorem follows_refreshed (s : RenderState) : s.Follows s.refreshed := ⟨rfl, .inr ⟨s.clock.used, rfl⟩⟩

/-- After a look at the clock the context is the one before it with some time. -/
theorem Follows.of_refreshed {s t : RenderState} (h : s.refreshed.Follows t) :
    ∃ i, t.context = s.context.refresh (s.clock.reading i) := by
  rcases h.context with hcontext | ⟨i, hcontext⟩
  · exact ⟨s.clock.used, hcontext⟩
  · exact ⟨i, hcontext.trans (Context.refresh_refresh _ _ _)⟩

end RenderState

theorem Context.sameButTime_refresh (ctx : Context) (now : Reading) : ctx.SameButTime (ctx.refresh now) :=
  ⟨fun _ hname => get?_refresh hname, names_refresh ctx now⟩

namespace Renderer

open RenderState (Follows)

variable {r : Renderer} {template : Template} {name : String} {source : Text} {s : RenderState}

/-! ## Templates -/

theorem page_follows (name : String) (filled : Text) : Leads Follows (r.page name filled) := by
  intro s
  rw [run_page]
  split <;> exact ⟨rfl, .inl rfl⟩

theorem included_follows (levels : Nat) (chain : List String) (name : String) :
    Leads Follows (r.included levels chain name) :=
  included_leads Follows.refl Follows.trans (fun _ => True) RenderState.follows_refreshed
    (fun _ _ _ _ _ _ => trivial) (fun name _ => page_follows name) trivial

/-- However a rendering ends that has a source, the clock has been looked at first. -/
theorem render_follows (hload : template.load r.source = .ok (name, source)) :
    s.refreshed.Follows ((r.render template).run s).2 := by
  have hroot : s.refreshed.Follows ((r.renderRoot name source).run s).2 := by
    rw [renderRoot, run_renderSource]
    exact filledPage_leads Follows.refl Follows.trans (page_follows name)
      (fun m _ => included_follows _ _ m) s.refreshed
  rw [run_render hload]
  rcases hrun : (r.renderRoot name source).run s with ⟨_ | page, s'⟩ <;> rw [hrun] at hroot <;> exact hroot

/-! ## Whole renderings -/

/-- A rendering changes nothing in its context but the time, whether it ends with a page or fails, and at
whatever stage; a template that cannot be loaded changes nothing at all. Saving the page makes no
difference to this. -/
theorem render_keeps_context (r : Renderer) (template : Template) (s : RenderState) :
    (∀ e, template.load r.source = .error e → (r.render template).run s = (.error e, s)) ∧
    (∀ loaded, template.load r.source = .ok loaded →
      s.context.SameButTime ((r.render template).run s).2.context) ∧
    ∀ name path fs, (r.renderFileTo name path s fs).1.2 = ((r.render (.named name)).run s).2 := by
  refine ⟨fun e hload => ?_, fun loaded hload => ?_, fun name path fs => ?_⟩
  · rw [render_eq, hload]
    rfl
  · obtain ⟨i, hcontext⟩ := (render_follows (s := s) hload).of_refreshed
    rw [hcontext]
    exact s.context.sameButTime_refresh _
  · show _ = ((r.renderFile name).run s).2
    unfold renderFileTo
    rcases (r.renderFile name).run s with ⟨_ | page, s'⟩
    · rfl
    · dsimp only
      split <;> rfl

end Renderer

end PageTemplate
