/-
Values of several lines. A line that such a value was put into is source again, with the deferred
placeholders as they were written, and is compiled in its place. If no brace opens outside the
placeholders of a text, nor in a value, this source has no tags, and its only placeholders are the
deferred ones; so compiling it again makes of the line what replacing its placeholders makes of it, and
values of several lines can be treated like all others.
-/
import PageTemplate.Proofs.Render.Plain

namespace PageTemplate

namespace Text.Braced

variable {text : Text}

theorem tagless (h : Braced text) : Tagless text := by
  rintro line hline ⟨⟨before, after, heq⟩, -⟩
  refine (h.of_mem_lines hline).no_tag before after ?_
  rw [← heq]
  simp [Statement.tagOpen]

theorem no_directive (h : Braced text) (before name after : Text) :
    text ≠ before ++ SourcePart.opening ++ (name ++ SourcePart.closing ++ after) := by
  intro heq
  refine h.no_tag before (' ' :: "include ".toList ++ (name ++ SourcePart.closing ++ after)) ?_
  rw [heq]
  simp [SourcePart.opening]

end Text.Braced

/-- Values without opening braces are put in, and the placeholders that are left are as they were written. -/
theorem Substitution.Of.source_leaves {ctx : Context} {line : Text} {s : Substitution} (h : Of ctx line s)
    (hvalues : ValuesAre ('\x7b' ∉ ·) ctx line) :
    Text.Replaced (Text.Leaves (Placeholder.Resolves ctx) fun p => ctx.get? p.name = none) line s.source := by
  refine h.source_replaced.imp fun p t hp ht => ?_
  rcases ht with ht | ht
  · exact .inl ⟨ht, hvalues p t hp ht⟩
  · exact .inr ht

namespace Renderer

variable {r : Renderer} {ctx : Context}

/-- A source without tags whose values have no line breaks is expanded into instructions that write it
with its placeholders replaced. -/
theorem exists_expand_of_single {source : Text} (htagless : Tagless source)
    (hsource : Replaceable ctx r.options.bufferName source) (hvalues : ValuesAre ('\n' ∉ ·) ctx source)
    (levels : Nat) :
    ∃ nodes page, r.expand ctx (levels + 1) source = .ok nodes ∧
      Text.Replaced (Placeholder.Shows ctx) source page ∧
      WritesText ctx.get? r.options.bufferName nodes page := by
  have hlines : ∀ line ∈ source.lines, ∃ t, Text.Replaced (Placeholder.Shows ctx) line t ∧
      LineWrites ctx (r.expand ctx levels) r.options.bufferName line t := fun line hline =>
    exists_lineWrites_of_single (hsource.of_mem_lines hline)
      (fun p t hp => hvalues p t (hp.of_mem_lines hline)) _
  obtain ⟨statements, steps, program, page, hstatements, hsteps, hprogram, hreplaced, hwrites⟩ :=
    exists_program_of_lines htagless hlines
  refine ⟨program.nodes, page, ?_, hreplaced, hwrites⟩
  rw [expand, hstatements, ok_bind, hsteps, ok_bind, hprogram]
  rfl

/-- What is left of a line without loose braces once the values of the context are put in: a source
without loose braces, all of whose placeholders are unknown, and which becomes what the line becomes. -/
theorem source_of_braced {line : Text} {s : Substitution} (hof : Substitution.Of ctx line s)
    (hbraced : line.Braced) (hvalues : ValuesAre ('\x7b' ∉ ·) ctx line) :
    s.source.Braced ∧ (∀ p, Placeholder.In p s.source → p.In line ∧ ctx.get? p.name = none) ∧
      ∀ page, Text.Replaced (Placeholder.Shows ctx) s.source page →
        Text.Replaced (Placeholder.Shows ctx) line page := by
  obtain ⟨hbraced', hin, hpass⟩ := (hof.source_leaves hvalues).two_passes hbraced
  refine ⟨hbraced', hin, fun page hpage => (hpass page hpage).imp fun p t _ ht => ?_⟩
  rcases ht with ht | ⟨-, ht⟩
  · exact .value ht
  · exact ht

/-- A line without loose braces becomes an instruction that writes it with its placeholders replaced, be
the values of one line or of several. -/
theorem exists_lineWrites_of_braced {line : Text} (hbraced : line.Braced)
    (hline : Replaceable ctx r.options.bufferName line) (hvalues : ValuesAre ('\x7b' ∉ ·) ctx line)
    (levels : Nat) :
    ∃ t, Text.Replaced (Placeholder.Shows ctx) line t ∧
      LineWrites ctx (r.expand ctx (levels + 1)) r.options.bufferName line t := by
  obtain ⟨s, hs⟩ := Substitution.exists_ofLine ctx hline.known
  have hof := Substitution.of_ofLine hs
  cases hmultiline : s.multiline with
  | false => exact ⟨_, hof.emitted_replaced, hof.lineWrites hs hline hmultiline _⟩
  | true =>
    obtain ⟨hsource, hin, hpass⟩ := source_of_braced hof hbraced hvalues
    -- nothing in the source is known to the context, so no value is put in a second time
    have hreplaceable : Replaceable ctx r.options.bufferName s.source :=
      ⟨fun p hp => hline.known p (hin p hp).1, fun p hp => hline.hidden p (hin p hp).1⟩
    have hnovalues : ValuesAre ('\n' ∉ ·) ctx s.source := fun p t hp ht =>
      absurd (hin p hp).2 ht.get?_ne_none
    obtain ⟨nodes, page, hexpand, hreplaced, hwrites⟩ :=
      exists_expand_of_single (r := r) hsource.tagless hreplaceable hnovalues levels
    refine ⟨page, hpass page hreplaced, ?_⟩
    rintro l rfl
    exact ⟨.block nodes, .block nodes, Statement.toStep_of_multiline hs hmultiline hexpand, .block nodes,
      hwrites.block⟩

/-- A text in which no brace opens outside a placeholder, with known filters and with values in which no
brace opens, is rendered, wherever its values have line breaks, and after any history of the cache from which
its fingerprint tells it apart: the page is the text with each placeholder replaced in its place, and
nothing else is. -/
theorem renderString_replaces_values_of_several_lines (r : Renderer) (text : String) (s : RenderState)
    (calls : List Cache.Call) (hformat : r.options.formatOutput = false)
    (hlevels : 1 ≤ r.options.maxIncludeDepth) (hcache : s.cache = Cache.history calls)
    (hapart : Cache.Request.Apart (⟨text.toList, r.options.bufferName⟩ :: Cache.requests calls))
    (hbraced : Text.Braced text.toList)
    (hplaceholders : Replaceable (s.context.refresh s.clock.now) r.options.bufferName text.toList)
    (hvalues : ValuesAre ('\x7b' ∉ ·) (s.context.refresh s.clock.now) text.toList) :
    ∃ page s', (r.renderString text).run s = (.ok (String.ofList page), s') ∧
      ∀ page', Text.Replaced (Placeholder.Shows (s.context.refresh s.clock.now)) text.toList page' ↔
        page' = page := by
  obtain ⟨levels, hdepth⟩ := Nat.exists_eq_add_of_le' hlevels
  have hlines : ∀ line ∈ Text.lines text.toList, ∃ t,
      Text.Replaced (Placeholder.Shows (s.context.refresh s.clock.now)) line t ∧
      LineWrites (s.context.refresh s.clock.now)
        (r.expand (s.context.refresh s.clock.now) r.options.maxIncludeDepth) r.options.bufferName
        line t := by
    intro line hline
    rw [hdepth]
    exact exists_lineWrites_of_braced (hbraced.of_mem_lines hline) (hplaceholders.of_mem_lines hline)
      (fun p t hp => hvalues p t (hp.of_mem_lines hline)) levels
  exact exists_renderString_of_lines hformat hcache hapart hbraced.no_directive hbraced.tagless hlines

/-- Two values of several lines beside each other and beside a placeholder that is deferred. -/
theorem renderString_replaces_values_of_several_lines_of_neighbours :
    let text := "\x7b\x7bx\x7d\x7d\x7b\x7by|lower\x7d\x7d\x7b\x7bx\x7d\x7d\x7d"
    let r : Renderer :=
      { options := { maxIncludeDepth := 1 }, source := fun name => .error (.templateNotFound name) }
    let s : RenderState :=
      { context := ⟨[("x", .str "a\n% \x7d")]⟩, clock := ⟨fun _ => ⟨0, "", ""⟩, 0⟩, cache := [],
        programs := [] }
    let ctx := s.context.refresh s.clock.now
    Text.Braced text.toList ∧ Replaceable ctx "output" text.toList ∧
      ValuesAre ('\x7b' ∉ ·) ctx text.toList ∧
      ∃ page s', (r.renderString text).run s = (.ok (String.ofList page), s') ∧
        (∀ page', Text.Replaced (Placeholder.Shows ctx) text.toList page' ↔ page' = page) ∧
        String.ofList page = "a\n% \x7d\x7by|lower\x7da\n% \x7d\x7d" := by
  intro text r s ctx
  have hbraced : Text.Braced text.toList := by decide +kernel
  have hplaceholders : Replaceable ctx "output" text.toList := by decide +kernel
  have hvalues : ValuesAre ('\x7b' ∉ ·) ctx text.toList := by decide +kernel
  obtain ⟨page, s', hrun, hpage⟩ := renderString_replaces_values_of_several_lines r text s [] rfl
    (Nat.le_refl 1) rfl (by decide +kernel) hbraced hplaceholders hvalues
  have hshown : ((r.renderString text).run s).1.toOption =
      some "a\n% \x7d\x7by|lower\x7da\n% \x7d\x7d" := by
    decide +kernel
  rw [hrun] at hshown
  exact ⟨hbraced, hplaceholders, hvalues, page, s', hrun, hpage, Option.some.inj hshown⟩

end Renderer

end PageTemplate
