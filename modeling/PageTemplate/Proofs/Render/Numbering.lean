/-
The numbers of lines in grammar errors. Lines are counted after included pages have been put in place, so
the number of an error is that of a line of the template with its includes in place, and of a line of the
template as it is written as long as no directive begins before or in this line.

Where no value has a line break, nothing is compiled but such templates: a line that values are put into
stays a single one and is not compiled again. That is an invariant of the context, which changes in its time
only.
-/
import PageTemplate.Proofs.Line.Filters
import PageTemplate.Proofs.Line.LineBreaks
import PageTemplate.Proofs.Render.Origin
import PageTemplate.Proofs.Render.Plain

namespace PageTemplate

theorem Library.mem_of_source_eq_ok {library : Library} {name text : String}
    (h : library.source name = .ok text) : (name, text) ∈ library := by
  unfold Library.source at h
  split at h
  · cases h
    exact Fields.mem_of_get? ‹_›
  · cases h

/-! ## Lines -/

namespace Text

/-- The line of a number, counted from one, is `content`. -/
def HasLine (text : Text) (number : Nat) (content : Text) : Prop :=
  0 < number ∧ text.lines[number - 1]? = some content

instance (text : Text) (number : Nat) (content : Text) : Decidable (text.HasLine number content) :=
  inferInstanceAs (Decidable (_ ∧ _))

variable {text other : Text} {number : Nat} {content : Text}

theorem HasLine.of_take_lines (h : text.HasLine number content)
    (htake : other.lines.take number = text.lines.take number) : other.HasLine number content := by
  obtain ⟨hnumber, hline⟩ := h
  have hlast : number - 1 < number := Nat.sub_one_lt_of_lt hnumber
  exact ⟨hnumber, by rw [← List.getElem?_take_of_lt hlast, htake, List.getElem?_take_of_lt hlast, hline]⟩

/-- A text without line breaks is where the first line begins. -/
theorem exists_lines_append {first : Text} (hfirst : '\n' ∉ first) (more : Text) :
    ∃ line rest, lines (first ++ more) = (first ++ line) :: rest := by
  by_cases hmore : '\n' ∈ more
  · obtain ⟨line, rest, rfl, hline⟩ := List.eq_append_cons_of_mem hmore
    rw [← List.append_assoc, lines_append_cons (List.not_mem_append hfirst hline)]
    exact ⟨line, _, rfl⟩
  · exact ⟨more, [], List.splitOn_eq_singleton (List.not_mem_append hfirst hmore)⟩

/-- The lines before the one in which a pattern begins do not depend on what stands from there on. -/
theorem take_lines_append {pattern : Text} (hpattern : '\n' ∉ pattern) (more other : Text) :
    ∀ (count : Nat) (before : Text),
      (∀ line ∈ (before ++ pattern ++ more).lines.take count, ¬ pattern <:+: line) →
      (before ++ other).lines.take count = (before ++ pattern ++ more).lines.take count
  | 0, _, _ => rfl
  | count + 1, before, hnone => by
    by_cases hbefore : '\n' ∈ before
    · obtain ⟨first, rest, rfl, hfirst⟩ := List.eq_append_cons_of_mem hbefore
      have hlines (t : Text) : lines (first ++ '\n' :: rest ++ t) = first :: lines (rest ++ t) := by
        rw [List.append_assoc, List.cons_append, lines_append_cons hfirst]
      rw [List.append_assoc _ pattern, hlines, ← List.append_assoc, List.take_succ_cons] at hnone
      obtain ⟨-, hrest⟩ := List.forall_mem_cons.1 hnone
      rw [List.append_assoc _ pattern, hlines, hlines, ← List.append_assoc, List.take_succ_cons,
        List.take_succ_cons, take_lines_append hpattern more other count rest hrest]
    · -- the pattern is in the first line
      obtain ⟨line, rest, hlines⟩ := exists_lines_append (List.not_mem_append hbefore hpattern) more
      rw [hlines, List.take_succ_cons] at hnone
      exact absurd ⟨before, line, rfl⟩ (hnone _ List.mem_cons_self)

end Text

/-- An error of compiling lines is that of one of them, under its number. -/
theorem Statement.getElem?_of_ofLines_error {buffer : String} {lines : List Text} {number : Nat}
    {content : String} {fault : GrammarFault}
    (h : Statement.ofLines buffer lines = .error (.grammar number content fault)) :
    0 < number ∧ lines[number - 1]? = some content.toList := by
  rcases ofLinesFrom_cases buffer lines 1 0 with
    ⟨statements, hok, -⟩ | ⟨before, line, after, fault', rfl, hbefore, hfault⟩
  · rw [ofLines, hok] at h
    cases h
  · rw [ofLines_of_malformed hbefore hfault] at h
    cases h
    exact ⟨Nat.succ_pos _, by simp⟩

/-- The lines in front of the first directive stay where they are. -/
theorem Renderer.Filled.take_lines {r : Renderer} {s t : RenderState} {source filled : Text}
    (h : r.Filled s source filled t) {count : Nat}
    (hnone : ∀ line ∈ source.lines.take count, ¬ SourcePart.opening <:+: line) :
    source.lines.take count = filled.lines.take count := by
  cases h with
  | none => rfl
  | first hopen =>
    rw [hopen.whole] at hnone ⊢
    exact (Text.take_lines_append (by decide) _ _ count _ hnone).symm

/-- Neither the values nor the forms of the time that a rendering can see have line breaks. -/
structure RenderState.OneLine (s : RenderState) : Prop where
  context : s.context.OneLine
  clock : ∀ i, (s.clock.reading i).OneLine

/-- All templates of a rendering see values without line breaks, if the first one does. -/
theorem RenderState.OneLine.of_follows {s t : RenderState} (hs : s.OneLine) (h : s.Follows t) : t.OneLine := by
  refine ⟨?_, fun i => h.clock ▸ hs.clock i⟩
  rcases h.context with hcontext | ⟨i, hcontext⟩ <;> rw [hcontext]
  · exact hs.context
  · exact hs.context.refresh (hs.clock i)

namespace Renderer

variable {r : Renderer} {name root n : String} {filled : Text} {s s' t : RenderState} {number : Nat}
  {content : String} {fault : GrammarFault}

/-! ## One template -/

/-- Where no value has a line break, statements make a program or fail for another reason than a line that
is no statement. -/
theorem program_ne_grammar {ctx : Context} (hctx : ctx.OneLine) (statements : List Statement) :
    r.program ctx statements ≠ .error (.grammar number content fault) := by
  intro h
  have hcheck : ChecksFilters (statements.flatMap Statement.filterNames) (r.steps ctx statements) :=
    .mapM fun statement _ => Statement.toStep_checks fun l sub _ hsub =>
      (Substitution.of_ofLine hsub).single fun p t _ ht => hctx.newline_not_mem ht
  rcases bind_eq_error.1 h with hsteps | ⟨steps, -, hassemble⟩
  · rw [hsteps] at hcheck
    cases hcheck
  · obtain ⟨_, -, heq⟩ := mapError_eq_error.1 hassemble
    cases heq

/-- A grammar error of a page names a line of its text. -/
theorem hasLine_of_page (hctx : s.context.OneLine)
    (h : (r.page name filled).run s = (.error (.grammar number content fault), s')) :
    filled.HasLine number content.toList := by
  rw [run_page] at h
  cases hstatements : (s.cache.statements name filled r.options.bufferName).1 with
  | error e =>
    rw [hstatements] at h
    cases h
    have hcompile : Statement.ofLines r.options.bufferName filled.lines =
        .error (.grammar number content fault) := by
      rcases Cache.statements_cases s.cache name ⟨filled, r.options.bufferName⟩ with
        ⟨_, -, -, heq⟩ | ⟨_, -, heq⟩ | ⟨e, hcompile, heq⟩
      · rw [heq] at hstatements; cases hstatements
      · rw [heq] at hstatements; cases hstatements
      · rw [heq] at hstatements
        cases hstatements
        exact hcompile
    exact Statement.getElem?_of_ofLines_error hcompile
  | ok statements =>
    rw [hstatements, ok_bind] at h
    cases hprogram : r.program s.context statements with
    | error e =>
      rw [hprogram] at h
      cases h
      exact absurd hprogram (program_ne_grammar hctx statements)
    | ok program =>
      rw [hprogram] at h
      have hwritten : r.written s.context program = .error (.grammar number content fault) :=
        congrArg Prod.fst h
      rcases bind_eq_error.1 hwritten with hevaluate | ⟨_, -, hlines⟩
      · obtain ⟨_, -, heq⟩ := mapError_eq_error.1 hevaluate
        cases heq
      · cases hlines

/-- The template of a name, rendered from a state on, is refused for the line of a number. That is a line of
the template with the pages of this rendering in place of its directives. It is one of the template as it is
written, if no directive begins before it or in it. -/
def RefusesLine (r : Renderer) (s : RenderState) (n : String) (number : Nat) (content : String)
    (fault : GrammarFault) (s' : RenderState) : Prop :=
  ∃ text filled t, r.source n = .ok text ∧ r.Filled s.refreshed text.toList filled t ∧
    (r.page n filled).run t = (.error (.grammar number content fault), s') ∧
    filled.HasLine number content.toList ∧
    ((∀ line ∈ (Text.lines text.toList).take number, ¬ SourcePart.opening <:+: line) →
      Text.HasLine text.toList number content.toList)

/-- From a state on a template is refused for one line only. -/
theorem RefusesLine.unique {number' : Nat} {content' : String} {fault' : GrammarFault} {t' : RenderState}
    (h : r.RefusesLine s n number content fault t) (h' : r.RefusesLine s n number' content' fault' t') :
    number = number' ∧ content = content' ∧ fault = fault' ∧ t = t' := by
  obtain ⟨text, filled, u, htext, hfilled, hpage, -⟩ := h
  obtain ⟨text', filled', u', htext', hfilled', hpage', -⟩ := h'
  rw [htext] at htext'
  cases htext'
  obtain ⟨rfl, rfl⟩ := hfilled.unique hfilled'
  rw [hpage] at hpage'
  cases hpage'
  exact ⟨rfl, rfl, rfl, rfl⟩

/-- Where no value has a line break, a template that fails with a grammar error cannot be loaded, or is refused
for one of its lines. -/
theorem FailsAt.refusesLine {chain : List String} (hs : s.OneLine)
    (h : r.FailsAt chain s n (.grammar number content fault) s') :
    r.source n = .error (.grammar number content fault) ∨ r.RefusesLine s n number content fault s' := by
  cases h with
  | refused _ hcheck =>
    unfold checkInclusion at hcheck
    split_ifs at hcheck <;> cases hcheck
  | missing hsource => exact .inl hsource
  | page htext hfilled hpage =>
    have hstate := (hs.of_follows s.follows_refreshed).of_follows hfilled.follows
    have hline := hasLine_of_page hstate.context hpage
    exact .inr ⟨_, _, _, htext, hfilled, hpage, hline, fun hnone => hline.of_take_lines (hfilled.take_lines hnone)⟩

/-- A grammar error of a rendering that starts with the template `root`: the rendering has come to a template at
the end of a path from there, and the error is the answer of the source for it, or the line is one of this
template, which is refused for it. -/
def NamesLineFrom (r : Renderer) (s : RenderState) (root : String) (number : Nat) (content : String)
    (fault : GrammarFault) (s' : RenderState) : Prop :=
  ∃ names chain n t, r.source.Path root names ∧ root :: names = chain ++ [n] ∧ r.Reaches s root chain t n ∧
    (r.source n = .error (.grammar number content fault) ∨ r.RefusesLine t n number content fault s')

/-! ## Whole renderings -/

/-- Where no value has a line break, a grammar error of a rendering names a line of a template that the
rendering has come to by its directives: under its number the line stands in that template, with the pages in
place that this rendering has put there, and, if no directive begins up to there, in the template as it is
written. This apart, the error can only be the answer of the source of templates for such a template, or that
of the formatter for the page of this rendering. -/
theorem renderFile_grammar_error_names_line (r : Renderer) (root : String) (s s' : RenderState) (number : Nat)
    (content : String) (fault : GrammarFault) (hctx : s.context.OneLine)
    (hclock : ∀ i, (s.clock.reading i).OneLine)
    (h : (r.renderFile root).run s = (.error (.grammar number content fault), s')) :
    r.NamesLineFrom s root number content fault s' ∨
    ∃ text page, r.source root = .ok text ∧ (r.renderRoot root text.toList).run s = (.ok page, s') ∧
      r.finish (String.ofList page) = .error (.grammar number content fault) := by
  rcases exists_failsAt_of_renderFile h with ⟨chain, t, n, hreaches, hfails⟩ | hfinish
  · obtain ⟨names, hnames, hpath⟩ := hreaches.exists_path
    have hstate : t.OneLine := RenderState.OneLine.of_follows ⟨hctx, hclock⟩ hreaches.follows
    exact .inl ⟨names, chain, n, t, hpath, hnames, hreaches, hfails.refusesLine hstate⟩
  · exact .inr hfinish

/-- An included page of two lines and a value in it move a malformed line from the second place to the
third. -/
theorem grammar_error_names_line_behind_include :
    let library : Library :=
      [("page", "\x7b% include part %\x7d\n\x7b% if %\x7d"), ("part", "a\n\x7b\x7bx\x7d\x7d")]
    let r : Renderer := { options := {}, source := library.source }
    let s : RenderState :=
      { context := ⟨[("x", .str "b")]⟩, clock := ⟨fun _ => ⟨0, "", ""⟩, 0⟩, cache := [], programs := [] }
    s.context.OneLine ∧ (∀ i, (s.clock.reading i).OneLine) ∧
      ∃ s', (r.renderFile "page").run s =
          (.error (.grammar 3 "\x7b% if %\x7d" (.missingCondition "if")), s') ∧
        r.NamesLineFrom s "page" 3 "\x7b% if %\x7d" (.missingCondition "if") s' := by
  intro library r s
  have hnone : Context.OneLine ⟨[]⟩ := nofun
  have hctx : s.context.OneLine := hnone.insert "x" (by decide)
  have hnow : Reading.OneLine ⟨0, "", ""⟩ := ⟨by decide, by decide⟩
  have hclock : ∀ i, (s.clock.reading i).OneLine := fun _ => hnow
  have hfails : (match (r.renderFile "page").run s with
      | (.error (.grammar number content fault), _) => some (number, content, fault)
      | _ => none) = some (3, "\x7b% if %\x7d", .missingCondition "if") := by
    decide +kernel
  split at hfails
  · rename_i hrun
    cases hfails
    refine ⟨hctx, hclock, _, hrun, ?_⟩
    rcases renderFile_grammar_error_names_line r "page" s _ _ _ _ hctx hclock hrun with hline | ⟨_, _, -, -, h⟩
    · exact hline
    · cases h
  · cases hfails

/-- The number is not always that of a line of a template as it is written: neither of these templates has
three lines. -/
theorem grammar_error_counts_included_lines :
    ¬ ∀ (r : Renderer) (root : String) (s s' : RenderState) (number : Nat) (content : String)
        (fault : GrammarFault), s.context.OneLine → (∀ i, (s.clock.reading i).OneLine) →
      (r.renderFile root).run s = (.error (.grammar number content fault), s') →
      ∃ names, r.source.Path root names ∧ ∃ n ∈ root :: names, ∃ text, r.source n = .ok text ∧
        Text.HasLine text.toList number content.toList := by
  intro h
  let library : Library := [("page", "\x7b% include part %\x7d\n\x7b% if %\x7d"), ("part", "a\nb")]
  let r : Renderer := { options := {}, source := library.source }
  let s : RenderState :=
    { context := ⟨[]⟩, clock := ⟨fun _ => ⟨0, "", ""⟩, 0⟩, cache := [], programs := [] }
  have hnow : Reading.OneLine ⟨0, "", ""⟩ := ⟨by decide, by decide⟩
  have hfails : (match (r.renderFile "page").run s with
      | (.error (.grammar number content fault), _) => some (number, content, fault)
      | _ => none) = some (3, "\x7b% if %\x7d", .missingCondition "if") := by
    decide +kernel
  split at hfails
  · rename_i hrun
    cases hfails
    obtain ⟨names, -, n, -, text, htext, hline⟩ :=
      h r "page" s _ _ _ _ nofun (fun _ => hnow) hrun
    have hshort : ∀ entry ∈ library, ¬ Text.HasLine entry.2.toList 3 "\x7b% if %\x7d".toList := by
      decide +kernel
    exact hshort (n, text) (Library.mem_of_source_eq_ok htext) hline
  · cases hfails

end Renderer

end PageTemplate
