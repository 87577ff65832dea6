/-
Pages of texts without tags. Such a text has a page whenever its filters are known, and the page is the
text with its placeholders replaced and with every other character kept. Main results: for values
without line breaks, where every line is emitted, and for values with them, where a line is compiled
again as source; for the second one no brace may open outside a placeholder, so that the source has no
tags and no placeholders but those that were deferred.

What carries both is one statement about lines: if each line becomes an instruction that writes it with
its placeholders replaced, the program writes the whole text like that.
-/
import PageTemplate.Proofs.Line.Compilation
import PageTemplate.Proofs.Line.Resolution
import PageTemplate.Proofs.Program.Assembled
import PageTemplate.Proofs.Program.Reference
import PageTemplate.Proofs.Render.Template

namespace PageTemplate

/-! ## Instructions that write a text -/

/-- Instructions write a text: their lines make it up, and they do not look at the output. -/
structure WritesText (env : Env) (buffer : String) (nodes : List Node) (t : Text) : Prop where
  lines : ∃ ls, ls ≠ [] ∧ linesOf nodes env = .ok ls ∧ Text.ofLines ls = t
  hidden : buffer ∉ namesOf nodes

namespace WritesText

variable {env : Env} {buffer : String} {node : Node} {nodes : List Node} {t page : Text}

theorem emit {segments : List Segment} (h : buffer ∉ segments.filterMap Segment.name?) :
    WritesText env buffer [.emit segments] (segments.flatMap (·.emitted env)) := by
  refine ⟨⟨[_], List.cons_ne_nil _ _, rfl, by simp [Text.ofLines]⟩, ?_⟩
  simpa [namesOf, Node.names] using h

theorem block (h : WritesText env buffer nodes t) : WritesText env buffer [.block nodes] t := by
  obtain ⟨ls, hne, hlines, heq⟩ := h.lines
  refine ⟨⟨ls, hne, ?_, heq⟩, ?_⟩
  · have hblock := linesOf_block env [] nodes []
    rw [List.nil_append, List.nil_append, List.append_nil] at hblock
    rw [hblock, hlines]
  · simpa [namesOf, Node.names] using h.hidden

theorem cons (h : WritesText env buffer [node] t) (hrest : WritesText env buffer nodes page) :
    WritesText env buffer (node :: nodes) (t ++ '\n' :: page) := by
  obtain ⟨ls, hne, hlines, rfl⟩ := h.lines
  obtain ⟨more, hmorene, hmore, rfl⟩ := hrest.lines
  refine ⟨⟨ls ++ more, ?_, ?_, Text.ofLines_append hmorene hne⟩, ?_⟩
  · exact List.append_ne_nil_of_left_ne_nil hne more
  · rw [← List.singleton_append, linesOf_append, hlines, hmore]
    rfl
  · have hnode := h.hidden
    have hnodes := hrest.hidden
    simp only [namesOf, List.append_nil, List.mem_append, not_or] at hnode ⊢
    exact ⟨hnode, hnodes⟩

/-- The output of a program that writes a text has the lines of this text. -/
theorem written {r : Renderer} {ctx : Context} {program : Program}
    (h : WritesText ctx.get? r.options.bufferName program.nodes page) :
    r.written ctx program = .ok page := by
  obtain ⟨ls, -, hlines, rfl⟩ := h.lines
  have hevaluate := Program.evaluate_eq_linesOf h.hidden ctx
  rw [hlines] at hevaluate
  unfold Renderer.written
  rw [hevaluate]
  rfl

end WritesText

/-! ## Literal lines -/

/-- A literal line becomes an instruction that writes `t`. -/
def LineWrites (ctx : Context) (expand : Text → Except TemplateError (List Node)) (buffer : String)
    (line t : Text) : Prop :=
  ∀ l : Literal, l.content = line → ∃ step node, Statement.toStep ctx expand (.literal l) = .ok step ∧
    node.Linear [step] ∧ WritesText ctx.get? buffer [node] t

/-- Lines that become instructions one by one make a program that writes all of them. -/
theorem exists_steps_of_lines {ctx : Context} {expand : Text → Except TemplateError (List Node)}
    {buffer : String} {shown : Text → Text → Prop} (indent : Int32) :
    ∀ {lines : List Text}, lines ≠ [] →
      (∀ line ∈ lines, ∃ t, shown line t ∧ LineWrites ctx expand buffer line t) →
      ∃ steps nodes pages,
        (lines.map fun line => .literal ⟨line, indent, indent, buffer⟩).mapM
          (Statement.toStep ctx expand) = .ok steps ∧
        LinearBody nodes steps ∧ List.Forall₂ shown lines pages ∧
        WritesText ctx.get? buffer nodes (Text.ofLines pages)
  | [line], _, h => by
    obtain ⟨t, ht, hline⟩ := h line List.mem_cons_self
    obtain ⟨step, node, hstep, hnode, hwrites⟩ := hline ⟨line, indent, indent, buffer⟩ rfl
    refine ⟨[step], [node], [t], ?_, ?_, .cons ht .nil, by simpa [Text.ofLines] using hwrites⟩
    · exact mapM_eq_ok_iff.2 (.cons hstep .nil)
    · have hbody := LinearBody.cons hnode .nil
      rwa [List.append_nil] at hbody
  | line :: next :: rest, _, h => by
    obtain ⟨⟨t, ht, hline⟩, hrest⟩ := List.forall_mem_cons.1 h
    obtain ⟨step, node, hstep, hnode, hwrites⟩ := hline ⟨line, indent, indent, buffer⟩ rfl
    obtain ⟨steps, nodes, pages, hsteps, hnodes, hpages, hwritesRest⟩ :=
      exists_steps_of_lines indent (List.cons_ne_nil next rest) hrest
    refine ⟨step :: steps, node :: nodes, t :: pages, ?_, .cons hnode hnodes, .cons ht hpages, ?_⟩
    · exact mapM_eq_ok_iff.2 (.cons hstep (mapM_eq_ok_iff.1 hsteps))
    · cases hpages with
      | cons =>
        rw [Text.ofLines_cons_cons]
        exact hwrites.cons hwritesRest

/-! ## The placeholders of a text -/

/-- Nothing keeps the placeholders of a text from being replaced: their filters are known, and none
whose name the context lacks is named like the output. -/
structure Replaceable (ctx : Context) (buffer : String) (text : Text) : Prop where
  known : ∀ p : Placeholder, p.In text → p.Known
  hidden : ∀ p : Placeholder, p.In text → ctx.get? p.name = none → p.name ≠ buffer

/-- Every text that a placeholder of `text` stands for is `good`. -/
def ValuesAre (good : Text → Prop) (ctx : Context) (text : Text) : Prop :=
  ∀ (p : Placeholder) (t : Text), p.In text → p.Resolves ctx t → good t

instance (ctx : Context) (buffer : String) (text : Text) : Decidable (Replaceable ctx buffer text) :=
  decidable_of_iff
    (∀ p ∈ Text.placeholders text, p.Known ∧ (ctx.get? p.name = none → p.name ≠ buffer)) <| by
    simp only [Text.mem_placeholders_iff]
    constructor
    · exact fun h => ⟨fun p hp => (h p hp).1, fun p hp => (h p hp).2⟩
    · exact fun h p hp => ⟨h.known p hp, h.hidden p hp⟩

instance {good : Text → Prop} [DecidablePred good] (ctx : Context) (text : Text) :
    Decidable (ValuesAre good ctx text) :=
  decidable_of_iff (∀ p ∈ Text.placeholders text, ∀ t ∈ p.value? ctx, good t) <| by
    simp only [Text.mem_placeholders_iff, Option.mem_def, Placeholder.value?_eq_some_iff]
    constructor
    · exact fun h p t hp => h p hp t
    · exact fun h p hp t => h p t hp

theorem Placeholder.In.of_mem_lines {p : Placeholder} {text line : Text} (h : p.In line)
    (hline : line ∈ text.lines) : p.In text := by
  obtain ⟨before, after, rfl⟩ := Text.exists_eq_of_mem_lines hline
  exact h.of_part before after

theorem Replaceable.of_mem_lines {ctx : Context} {buffer : String} {text line : Text}
    (h : Replaceable ctx buffer text) (hline : line ∈ text.lines) : Replaceable ctx buffer line :=
  ⟨fun p hp => h.known p (hp.of_mem_lines hline), fun p hp => h.hidden p (hp.of_mem_lines hline)⟩

namespace Substitution

variable {ctx : Context} {buffer : String} {line : Text} {s : Substitution}

/-- An instruction that emits a substituted line writes the line with its placeholders replaced. -/
theorem Of.emitted_replaced (h : Of ctx line s) :
    Text.Replaced (Placeholder.Shows ctx) line (s.segments.flatMap (·.emitted ctx.get?)) := by
  refine (h.replaced (·.emitted ctx.get?) fun _ => rfl).imp fun p t _ ht => ?_
  obtain ⟨res, hres, rfl⟩ := ht
  cases hres with
  | value hresolves => exact .value hresolves
  | @deferred filters hnone =>
    have hstripped : Segment.emitted ctx.get? (.deferred ⟨p.raw, p.name, p.attr, filters⟩) =
        p.raw.tail.dropLast := by
      rw [Segment.emitted, hnone]
      rfl
    exact hstripped ▸ .stripped hnone

theorem Of.writesText (h : Of ctx line s) (hline : Replaceable ctx buffer line) :
    WritesText ctx.get? buffer [.emit s.segments] (s.segments.flatMap (·.emitted ctx.get?)) := by
  refine WritesText.emit fun hbuffer => ?_
  obtain ⟨segment, hsegment, hname⟩ := List.mem_filterMap.1 hbuffer
  cases segment with
  | text => cases hname
  | deferred d =>
    obtain ⟨p, hp, hbecomes⟩ := h.deferred d hsegment
    cases hbecomes with
    | deferred hnone => exact hline.hidden p hp hnone (Option.some.inj hname)

/-- A line whose values have no line breaks stays a single one. -/
theorem Of.single (h : Of ctx line s) (hvalues : ValuesAre ('\n' ∉ ·) ctx line) : s.multiline = false := by
  cases hmultiline : s.multiline with
  | false => rfl
  | true =>
    obtain ⟨p, t, hp, ht, hbreak⟩ := h.multiline hmultiline
    exact absurd hbreak (hvalues p t hp ht)

/-- A line without a value of several lines is emitted. -/
theorem Of.lineWrites (h : Of ctx line s) (hofLine : ofLine ctx line = .ok s)
    (hline : Replaceable ctx buffer line) (hsingle : s.multiline = false)
    (expand : Text → Except TemplateError (List Node)) :
    LineWrites ctx expand buffer line (s.segments.flatMap (·.emitted ctx.get?)) := by
  rintro l rfl
  exact ⟨.emit s.segments, .emit s.segments, Statement.toStep_of_single hofLine hsingle, .emit _,
    h.writesText hline⟩

end Substitution

/-- A line whose values have no line breaks becomes an instruction that writes it with its placeholders
replaced. -/
theorem exists_lineWrites_of_single {ctx : Context} {buffer : String} {line : Text}
    (hline : Replaceable ctx buffer line) (hvalues : ValuesAre ('\n' ∉ ·) ctx line)
    (expand : Text → Except TemplateError (List Node)) :
    ∃ t, Text.Replaced (Placeholder.Shows ctx) line t ∧ LineWrites ctx expand buffer line t := by
  obtain ⟨s, hs⟩ := Substitution.exists_ofLine ctx hline.known
  have hof := Substitution.of_ofLine hs
  exact ⟨_, hof.emitted_replaced, hof.lineWrites hs hline (hof.single hvalues) expand⟩

/-! ## Texts without tags -/

/-- No line of the text has both marks of a tag. -/
def Tagless (text : Text) : Prop :=
  ∀ line ∈ text.lines, ¬ (Statement.tagOpen <:+: line ∧ Statement.tagClose <:+: line)

instance (text : Text) : Decidable (Tagless text) :=
  inferInstanceAs <| Decidable <|
    ∀ line ∈ text.lines, ¬ (Statement.tagOpen <:+: line ∧ Statement.tagClose <:+: line)

/-- If every line of a text without tags becomes an instruction that writes it with its placeholders
replaced, the text becomes a program that does the same. -/
theorem exists_program_of_lines {ctx : Context} {expand : Text → Except TemplateError (List Node)}
    {buffer : String} {text : Text} (htagless : Tagless text)
    (hlines : ∀ line ∈ text.lines,
      ∃ t, Text.Replaced (Placeholder.Shows ctx) line t ∧ LineWrites ctx expand buffer line t) :
    ∃ statements steps program page, Statement.ofLines buffer text.lines = .ok statements ∧
      statements.mapM (Statement.toStep ctx expand) = .ok steps ∧
      (Program.assemble steps).mapError TemplateError.evaluation = .ok program ∧
      Text.Replaced (Placeholder.Shows ctx) text page ∧
      WritesText ctx.get? buffer program.nodes page := by
  obtain ⟨steps, nodes, pages, hsteps, hnodes, hpages, hwrites⟩ :=
    exists_steps_of_lines 0 (Text.lines_ne_nil text) hlines
  refine ⟨_, steps, ⟨nodes⟩, Text.ofLines pages, Statement.ofLinesFrom_literal 1 htagless, hsteps, ?_, ?_,
    hwrites⟩
  · exact mapError_eq_ok.2 (Program.assemble_eq_ok_iff.2 hnodes)
  · have hreplaced := Text.Replaced.ofLines hpages
    rwa [Text.ofLines_lines] at hreplaced

namespace Renderer

variable {r : Renderer} {s : RenderState}

theorem page_eq_ok {name : String} {source page : Text} {statements : List Statement} {program : Program}
    (hstatements : (s.cache.statements name source r.options.bufferName).1 = .ok statements)
    (hprogram : r.program s.context statements = .ok program)
    (hwritten : r.written s.context program = .ok page) :
    ∃ s', (r.page name source).run s = (.ok page, s') := by
  rw [run_page, hstatements, ok_bind, hprogram]
  exact ⟨_, Prod.ext hwritten rfl⟩

/-- The page of a text without directives and tags, after any history of the cache, if each of its
lines becomes an instruction that writes it: the text with its placeholders replaced. -/
theorem exists_renderString_of_lines {text : String} {calls : List Cache.Call}
    (hformat : r.options.formatOutput = false) (hcache : s.cache = Cache.history calls)
    (hapart : Cache.Request.Apart (⟨text.toList, r.options.bufferName⟩ :: Cache.requests calls))
    (hdirective : ∀ before name after,
      text.toList ≠ before ++ SourcePart.opening ++ (name ++ SourcePart.closing ++ after))
    (htagless : Tagless text.toList)
    (hlines : ∀ line ∈ Text.lines text.toList, ∃ t,
      Text.Replaced (Placeholder.Shows (s.context.refresh s.clock.now)) line t ∧
      LineWrites (s.context.refresh s.clock.now)
        (r.expand (s.context.refresh s.clock.now) r.options.maxIncludeDepth) r.options.bufferName
        line t) :
    ∃ page s', (r.renderString text).run s = (.ok (String.ofList page), s') ∧
      ∀ page', Text.Replaced (Placeholder.Shows (s.context.refresh s.clock.now)) text.toList page' ↔
        page' = page := by
  obtain ⟨statements, steps, program, page, hstatements, hsteps, hprogram, hreplaced, hwrites⟩ :=
    exists_program_of_lines htagless hlines
  have hcached :
      (s.cache.statements stringTemplate text.toList r.options.bufferName).1 = .ok statements := by
    rw [hcache, ← hstatements]
    exact Cache.statements_history hapart stringTemplate
  have hassembled : r.program (s.context.refresh s.clock.now) statements = .ok program :=
    bind_eq_ok.2 ⟨steps, hsteps, hprogram⟩
  obtain ⟨s', hrun⟩ : ∃ s', (r.page stringTemplate text.toList).run
      { s with context := s.context.refresh s.clock.now, clock := s.clock.tick } = (.ok page, s') :=
    page_eq_ok hcached hassembled hwrites.written
  refine ⟨page, s', ?_, hreplaced.shows_iff⟩
  unfold renderString renderRoot
  rw [run_bind, renderSource_eq_page hdirective, hrun]
  unfold finish
  rw [hformat]
  rfl

/-- A text without directives and tags whose filters are known and whose values have no line breaks is
rendered, after any history of the cache from which its fingerprint tells it apart: the page is the text
with each placeholder replaced in its place, and nothing else is. A text without placeholders is its own
page. -/
theorem renderString_replaces_placeholders (r : Renderer) (text : String) (s : RenderState)
    (calls : List Cache.Call) (hformat : r.options.formatOutput = false)
    (hcache : s.cache = Cache.history calls)
    (hapart : Cache.Request.Apart (⟨text.toList, r.options.bufferName⟩ :: Cache.requests calls))
    (hdirective : ∀ before name after,
      text.toList ≠ before ++ SourcePart.opening ++ (name ++ SourcePart.closing ++ after))
    (htagless : Tagless text.toList)
    (hplaceholders : Replaceable (s.context.refresh s.clock.now) r.options.bufferName text.toList)
    (hvalues : ValuesAre ('\n' ∉ ·) (s.context.refresh s.clock.now) text.toList) :
    ∃ page s', (r.renderString text).run s = (.ok (String.ofList page), s') ∧
      (∀ page', Text.Replaced (Placeholder.Shows (s.context.refresh s.clock.now)) text.toList page' ↔
        page' = page) ∧
      ((∀ p, ¬ Placeholder.In p text.toList) → String.ofList page = text) := by
  obtain ⟨page, s', hrun, hpage⟩ :=
    exists_renderString_of_lines hformat hcache hapart hdirective htagless fun line hline =>
      exists_lineWrites_of_single (hplaceholders.of_mem_lines hline)
        (fun p t hp => hvalues p t (hp.of_mem_lines hline)) _
  refine ⟨page, s', hrun, hpage, fun hnone => ?_⟩
  have hreplaced := (hpage page).2 rfl
  rw [hreplaced.eq_self hnone, String.ofList_toList]

/-- A text with loose braces, a blank line, a lone mark of a tag, a filter and a name that the context
lacks, rendered after another text. -/
theorem renderString_replaces_placeholders_of_loose_braces :
    let text := "\x7b\x7b\x7bx|upper\x7d\x7d\n\n\x7b% \x7b\x7b y.z \x7d\x7d\x7d\n"
    let r : Renderer := { options := {}, source := fun name => .error (.templateNotFound name) }
    let calls : List Cache.Call := [.statements stringTemplate ⟨['a'], "output"⟩]
    let s : RenderState :=
      { context := ⟨[("x", .str "v")]⟩, clock := ⟨fun _ => ⟨0, "", ""⟩, 0⟩, cache := Cache.history calls,
        programs := [] }
    let ctx := s.context.refresh s.clock.now
    Tagless text.toList ∧ Replaceable ctx "output" text.toList ∧ ValuesAre ('\n' ∉ ·) ctx text.toList ∧
      ∃ page s', (r.renderString text).run s = (.ok (String.ofList page), s') ∧
        (∀ page', Text.Replaced (Placeholder.Shows ctx) text.toList page' ↔ page' = page) ∧
        String.ofList page = "\x7bV\n\n\x7b% \x7b y.z \x7d\x7d\n" := by
  intro text r calls s ctx
  have htagless : Tagless text.toList := by decide +kernel
  have hplaceholders : Replaceable ctx "output" text.toList := by decide +kernel
  have hvalues : ValuesAre ('\n' ∉ ·) ctx text.toList := by decide +kernel
  obtain ⟨page, s', hrun, hpage, -⟩ := renderString_replaces_placeholders r text s calls rfl rfl
    (by decide +kernel) (SourcePart.first?_eq_none_iff.1 (by decide +kernel)) htagless hplaceholders hvalues
  have hshown : ((r.renderString text).run s).1.toOption = some "\x7bV\n\n\x7b% \x7b y.z \x7d\x7d\n" := by
    decide +kernel
  rw [hrun] at hshown
  exact ⟨htagless, hplaceholders, hvalues, page, s', hrun, hpage, Option.some.inj hshown⟩

end Renderer

end PageTemplate
