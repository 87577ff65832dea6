/-
Values that refer to themselves. A value of several lines that holds the placeholder of its own name makes
a source in which the placeholder stands again, so it can never be put in for good: the levels that are
allowed run out, however many there are.

The invariant is that a source holds this placeholder, and neither another one nor a loose brace; each level
passes it on to the source of the first line in which the placeholder stands, and the lines before that one
are emitted without a fault.
-/
import PageTemplate.Proofs.Context
import PageTemplate.Proofs.Line.Tags
import PageTemplate.Proofs.Render.Expansion

namespace PageTemplate

variable {name : String} {ctx : Context} {text line source : Text}

/-! ## Texts with one placeholder -/

/-- No brace opens in the text but in the placeholder of a name, which is written without spaces. -/
structure Text.AsksOnly (name : String) (text : Text) : Prop where
  braced : text.Braced
  only : ∀ p, Placeholder.In p text → p = .plain name

instance (name : String) (text : Text) : Decidable (text.AsksOnly name) :=
  decidable_of_iff (text.Braced ∧ ∀ p ∈ text.placeholders, p = .plain name) <| by
    simp only [Text.mem_placeholders_iff]
    exact ⟨fun h => ⟨h.1, h.2⟩, fun h => ⟨h.braced, h.only⟩⟩

instance (p : Placeholder) (text : Text) : Decidable (p.In text) :=
  decidable_of_iff (p ∈ text.placeholders) Text.mem_placeholders_iff

namespace Text.AsksOnly

theorem concat {a b : Text} (ha : AsksOnly name a) (hb : AsksOnly name b) : AsksOnly name (a ++ b) := by
  refine ⟨ha.braced.concat hb.braced, fun p hp => ?_⟩
  rcases ha.braced.in_concat_iff.1 hp with hp | hp
  · exact ha.only p hp
  · exact hb.only p hp

theorem of_mem_lines (h : AsksOnly name text) (hline : line ∈ text.lines) : AsksOnly name line :=
  ⟨h.braced.of_mem_lines hline, fun p hp => h.only p (hp.of_mem_lines hline)⟩

/-- Where the placeholder does not stand, no brace opens. -/
theorem of_kept {c : Char} (h : AsksOnly name (c :: text))
    (hnone : ∀ p : Placeholder, p.Written → ∀ after, c :: text ≠ p.raw ++ after) :
    c ≠ '\x7b' ∧ AsksOnly name text := by
  obtain ⟨hc, hbraced⟩ := h.braced.of_cons hnone
  exact ⟨hc, hbraced, fun p hp => h.only p ((Placeholder.in_cons_iff hc).2 hp)⟩

/-- Replaced by texts of this kind, the placeholders leave such a text. -/
theorem replaced {shows : Placeholder → Text → Prop} {page : Text} (h : Replaced shows text page)
    (htext : AsksOnly name text) (hshows : ∀ p t, shows p t → AsksOnly name t) : AsksOnly name page := by
  induction h with
  | nil => exact htext
  | @kept c text page hnone _ ih =>
    obtain ⟨hc, htext⟩ := htext.of_kept hnone
    obtain ⟨hbraced, honly⟩ := ih htext
    exact ⟨.plain hc hbraced, fun p hp => honly p ((Placeholder.in_cons_iff hc).1 hp)⟩
  | @placeholder p after t page hp ht _ ih =>
    refine (hshows p t ht).concat (ih ⟨htext.braced.of_raw_append hp, fun q hq => ?_⟩)
    exact htext.only q (hq.append_left _)

end Text.AsksOnly

/-- A placeholder stands in one of the lines of its text. -/
theorem Placeholder.In.exists_line {p : Placeholder} (h : p.In text) : ∃ line ∈ text.lines, p.In line := by
  obtain ⟨before, after, hp, hwhole⟩ := h
  have hraw : p.raw ≠ [] := by
    obtain ⟨inner, hinner, -⟩ := hp.raw_eq
    rw [hinner]
    exact List.cons_ne_nil _ _
  have hpart : p.raw <:+: Text.ofLines text.lines :=
    ⟨before, after, by rw [Text.ofLines_lines]; exact hwhole.symm⟩
  obtain ⟨line, hline, b, a, heq⟩ := Text.exists_infix_of_infix_ofLines hraw hp.newline_not_mem hpart
  exact ⟨line, hline, b, a, hp, heq.symm⟩

/-! ## One level -/

/-- The context has a value of several lines under the name, in whose text the placeholder of this name
stands, and no other one. -/
def Context.RefersToItself (ctx : Context) (name : String) : Prop :=
  ∃ v, ctx.get? name = some v ∧ '\n' ∈ v.text ∧ v.text.AsksOnly name ∧ (Placeholder.plain name).In v.text

/-- A line that asks for such a value becomes a source that asks for it. -/
theorem Substitution.exists_source_of_refersToItself (hvalue : ctx.RefersToItself name)
    (hline : line.AsksOnly name) (hasks : (Placeholder.plain name).In line) :
    ∃ s, ofLine ctx line = .ok s ∧ s.multiline = true ∧ s.source.AsksOnly name ∧
      (Placeholder.plain name).In s.source := by
  obtain ⟨v, hv, hbreak, hvtext, hvasks⟩ := hvalue
  have hresolves : (Placeholder.plain name).Resolves ctx v.text := ⟨v, [], hv, rfl, rfl⟩
  obtain ⟨s, hs⟩ := exists_ofLine ctx fun p hp => by
    rw [hline.only p hp]
    exact List.forall_mem_nil _
  have hsource : Text.Replaced (fun _ t => t = v.text) line s.source := by
    refine (of_ofLine hs).source_replaced.imp fun p t hp ht => ?_
    rw [hline.only p hp] at ht
    rcases ht with ht | ⟨hnone, -⟩
    · exact ht.unique hresolves
    · exact absurd hnone hresolves.get?_ne_none
  refine ⟨s, hs, multiline_of_resolves hs hasks hresolves hbreak, ?_, ?_⟩
  · exact hline.replaced hsource fun _ t ht => ht ▸ hvtext
  · exact hsource.in_page hasks fun t ht => ht ▸ hvasks

/-- A source in which the placeholder stands has no steps, if the next level fails on all such sources: the
first line with the placeholder fails, and those before it do not. -/
theorem steps_eq_error_of_refersToItself {expand : Text → Except TemplateError (List Node)}
    {e : TemplateError} (buffer : String) (hvalue : ctx.RefersToItself name)
    (hexpand : ∀ source : Text, source.AsksOnly name → (Placeholder.plain name).In source →
      expand source = .error e)
    (hsource : source.AsksOnly name) (hasks : (Placeholder.plain name).In source) :
    ∃ statements, Statement.ofLines buffer source.lines = .ok statements ∧
      statements.mapM (Statement.toStep ctx expand) = .error e := by
  refine ⟨_, Statement.ofLinesFrom_literal 1 hsource.braced.tagless, ?_⟩
  have hfails : ∀ l : Literal, l.content.AsksOnly name → (Placeholder.plain name).In l.content →
      Statement.toStep ctx expand (.literal l) = .error e := by
    intro l hl hin
    obtain ⟨s, hs, hmultiline, hnext, hnextAsks⟩ :=
      Substitution.exists_source_of_refersToItself hvalue hl hin
    rw [Statement.toStep, hs, ok_bind, if_pos hmultiline, hexpand s.source hnext hnextAsks]
    rfl
  refine mapM_eq_error_of_mem (fun statement hstatement => ?_) ?_
  · obtain ⟨line, hline, rfl⟩ := List.mem_map.1 hstatement
    by_cases hin : (Placeholder.plain name).In line
    · exact .inl (hfails _ (hsource.of_mem_lines hline) hin)
    · have hnone : ∀ p, ¬ Placeholder.In p line := fun p hp =>
        hin ((hsource.of_mem_lines hline).only p hp ▸ hp)
      obtain ⟨s, hs, hsingle, -⟩ := exists_ofLine_of_no_placeholder ctx hnone
      exact .inr ⟨_, Statement.toStep_of_single hs hsingle⟩
  · obtain ⟨line, hline, hin⟩ := hasks.exists_line
    exact ⟨_, List.mem_map.2 ⟨line, hline, rfl⟩, hfails _ (hsource.of_mem_lines hline) hin⟩

/-! ## All levels -/

namespace Renderer

variable {r : Renderer}

/-- However many levels are left, such a source fails for the bound. -/
theorem expand_of_refersToItself (hvalue : ctx.RefersToItself name) :
    ∀ (levels : Nat) (source : Text), source.AsksOnly name → (Placeholder.plain name).In source →
      r.expand ctx levels source = .error (.evaluation (.valuesNestedDeeper r.options.maxIncludeDepth))
  | 0, _, _, _ => by rw [expand]
  | levels + 1, source, hsource, hasks => by
    obtain ⟨statements, hstatements, hsteps⟩ := steps_eq_error_of_refersToItself r.options.bufferName
      hvalue (expand_of_refersToItself hvalue levels) hsource hasks
    rw [expand, hstatements, ok_bind, hsteps, error_bind]

/-- A value that refers to itself is always caught. If the value of a name, other than one of the time, has
several lines and the placeholder of the name in its text, and the text of a template has this placeholder
too, neither of them with another opening brace, the template is not rendered: whatever the bound on nesting
is, it is what the rendering fails for. -/
theorem renderString_refuses_self_reference (r : Renderer) (text : String) (s : RenderState) (name : String)
    (v : Value) (hcache : s.cache.Distinguishes ⟨text.toList, r.options.bufferName⟩)
    (htime : name ∉ Context.timeNames) (hv : s.context.get? name = some v) (hbreak : '\n' ∈ v.text)
    (hvalue : v.text.AsksOnly name) (hvalueAsks : (Placeholder.plain name).In v.text)
    (htext : Text.AsksOnly name text.toList) (htextAsks : (Placeholder.plain name).In text.toList) :
    ∃ s', (r.renderString text).run s =
      (.error (.evaluation (.valuesNestedDeeper r.options.maxIncludeDepth)), s') := by
  have hrefers : (s.context.refresh s.clock.now).RefersToItself name :=
    ⟨v, (Context.get?_refresh htime).trans hv, hbreak, hvalue, hvalueAsks⟩
  obtain ⟨statements, hstatements, hsteps⟩ := steps_eq_error_of_refersToItself r.options.bufferName
    hrefers (expand_of_refersToItself (r := r) hrefers r.options.maxIncludeDepth) htext htextAsks
  have hprogram : r.program (s.context.refresh s.clock.now) statements =
      .error (.evaluation (.valuesNestedDeeper r.options.maxIncludeDepth)) := by
    rw [program, steps, hsteps, error_bind]
  have hload : (Template.given text).load r.source = .ok (stringTemplate, text.toList) := rfl
  obtain ⟨cache, hrun⟩ := run_render_of_no_directive hload hcache htext.braced.no_directive
  rw [hstatements, ok_bind, hprogram] at hrun
  exact ⟨_, hrun⟩

/-- A list whose text has two lines, with its own placeholder in both, between other texts and braces that
close. -/
theorem renderString_refuses_self_reference_of_list :
    let text := "a\n\x7d \x7b\x7bv\x7d\x7d\x7d\n\x7b\x7bv\x7d\x7d"
    let value : Value := .list [.str "\x7b\x7bv\x7d\x7d\n%\x7d", .str "\x7b\x7bv\x7d\x7d\x7d"]
    let r : Renderer :=
      { options := { maxIncludeDepth := 1000 }, source := fun name => .error (.templateNotFound name) }
    let s : RenderState :=
      { context := ⟨[("v", value)]⟩, clock := ⟨fun _ => ⟨0, "", ""⟩, 0⟩, cache := [], programs := [] }
    value.text.AsksOnly "v" ∧ (Placeholder.plain "v").In value.text ∧ Text.AsksOnly "v" text.toList ∧
      (Placeholder.plain "v").In text.toList ∧
      ∃ s', (r.renderString text).run s = (.error (.evaluation (.valuesNestedDeeper 1000)), s') := by
  intro text value r s
  have hvalue : value.text.AsksOnly "v" := by decide +kernel
  have hvalueAsks : (Placeholder.plain "v").In value.text := by decide +kernel
  have htext : Text.AsksOnly "v" text.toList := by decide +kernel
  have htextAsks : (Placeholder.plain "v").In text.toList := by decide +kernel
  exact ⟨hvalue, hvalueAsks, htext, htextAsks,
    renderString_refuses_self_reference r text s "v" value (Cache.distinguishes_nil _) (by decide) rfl
      (by decide +kernel) hvalue hvalueAsks htext htextAsks⟩

end Renderer

end PageTemplate
