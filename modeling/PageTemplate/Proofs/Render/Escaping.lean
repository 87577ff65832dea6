/-
Pages of escaped texts. If every placeholder of a text asks for `escape`, and the same holds of whatever its
values make of it when they have several lines, no value can bring a bracket into the page or take one away:
the page has as many as the text. What carries this is that each line becomes instructions which write its
own brackets and no others, in any scope; nested sources are lines like all others, since substitution has
kept the number already.
-/
import PageTemplate.Proofs.Line.Brackets
import PageTemplate.Proofs.Program.Assembled
import PageTemplate.Proofs.Render.Reserved

namespace PageTemplate

open Statement (Reads Tagged)

variable {c : Char}

/-! ## Instructions -/

/-- The instructions write the character `c` just `n` times: none of them is a choice or a loop, and what
each line shows has a fixed number of them, whatever its names stand for. -/
inductive WritesCount (c : Char) : List Node → Nat → Prop
  | nil : WritesCount c [] 0
  | emit {segments : List Segment} {nodes : List Node} {n m : Nat} :
      (∀ env, (segments.flatMap (·.emitted env)).count c = n) → WritesCount c nodes m →
      WritesCount c (.emit segments :: nodes) (n + m)
  | block {inner nodes : List Node} {n m : Nat} :
      WritesCount c inner n → WritesCount c nodes m → WritesCount c (.block inner :: nodes) (n + m)

/-- Such instructions run to their end and append lines with so many of the character. -/
theorem WritesCount.run {nodes : List Node} {n : Nat} (h : WritesCount c nodes n) :
    ∀ scope : Scope, ∃ lines : List Text, lines.flatten.count c = n ∧
      (runNodes nodes).run scope = (.ok (), { scope with output := scope.output ++ lines.toArray }) := by
  induction h with
  | nil =>
    intro scope
    refine ⟨[], rfl, ?_⟩
    rw [Array.append_empty]
    rfl
  | @emit segments nodes n m hcount _ ih =>
    intro scope
    obtain ⟨lines, hlines, hrun⟩ := ih (scope.append (segments.flatMap (·.emitted scope.get?)))
    refine ⟨segments.flatMap (·.emitted scope.get?) :: lines, ?_, ?_⟩
    · rw [List.flatten_cons, List.count_append, hcount, hlines]
    · have hnode : (Node.emit segments).run.run scope =
          (.ok (), scope.append (segments.flatMap (·.emitted scope.get?))) := rfl
      rw [runNodes, run_bind, hnode]
      dsimp only
      rw [hrun]
      simp [Scope.append]
  | @block inner nodes n m _ _ ihInner ih =>
    intro scope
    obtain ⟨first, hfirst, hrunFirst⟩ := ihInner scope
    obtain ⟨lines, hlines, hrun⟩ := ih { scope with output := scope.output ++ first.toArray }
    refine ⟨first ++ lines, ?_, ?_⟩
    · rw [List.flatten_append, List.count_append, hfirst, hlines]
    · rw [runNodes, run_bind, Node.run, hrunFirst]
      dsimp only
      rw [hrun]
      simp

/-! ## Sources -/

/-- Nothing in the text is left open to its values: no line controls a block, and every placeholder asks for
`escape`. -/
structure Text.Inert (text : Text) : Prop where
  tagless : Tagless text
  escaped : text.Escaped

instance (text : Text) : Decidable text.Inert :=
  decidable_of_iff (Tagless text ∧ text.Escaped) ⟨fun h => ⟨h.1, h.2⟩, fun h => ⟨h.1, h.2⟩⟩

theorem Text.Escaped.of_mem_lines {text line : Text} (h : text.Escaped) (hline : line ∈ text.lines) :
    line.Escaped := fun p hp => h p (hp.of_mem_lines hline)

/-- A character other than a line break is in a text as often as in its lines. -/
theorem Text.count_ofLines (hc : c ≠ '\n') : ∀ lines : List Text,
    (ofLines lines).count c = lines.flatten.count c
  | [] => rfl
  | [line] => by simp [ofLines]
  | line :: next :: rest => by
    have ih := count_ofLines hc (next :: rest)
    calc (ofLines (line :: next :: rest)).count c
        = line.count c + (ofLines (next :: rest)).count c := by
          rw [ofLines_cons_cons, List.count_append, List.count_cons_of_ne hc.symm]
      _ = (line ++ (next :: rest).flatten).count c := by rw [ih, List.count_append]

section

variable {ctx : Context} {expand : Text → Except TemplateError (List Node)}

/-- One line: a literal line with escaped placeholders becomes an instruction that writes its own brackets. -/
theorem exists_node_of_toStep (hc : IsBracket c) {line : Text} {statement : Statement} {step : Step}
    (hreads : Reads line statement) (hliteral : ¬ Tagged line) (hescaped : line.Escaped)
    (hexpand : ∀ s nodes, Substitution.ofLine ctx line = .ok s → s.multiline = true →
      expand s.source = .ok nodes → WritesCount c nodes (s.source.count c))
    (hstep : statement.toStep ctx expand = .ok step) :
    ∃ node : Node, node.Linear [step] ∧
      ∀ nodes n, WritesCount c nodes n → WritesCount c (node :: nodes) (line.count c + n) := by
  cases hreads with
  | control htagged => exact absurd htagged hliteral
  | @literal l _ hcontent =>
    subst hcontent
    rw [Statement.toStep] at hstep
    obtain ⟨s, hs, hstep⟩ := bind_eq_ok.1 hstep
    have hof := Substitution.of_ofLine hs
    split_ifs at hstep with hmultiline
    · obtain ⟨inner, hinner, rfl⟩ := map_eq_ok.1 hstep
      have hcount := hexpand s inner hs hmultiline hinner
      rw [hof.count_source hc hescaped] at hcount
      exact ⟨.block inner, .block inner, fun nodes n hnodes => .block hcount hnodes⟩
    · cases hstep
      exact ⟨.emit s.segments, .emit s.segments, fun nodes n hnodes =>
        .emit (hof.count_emitted hc hescaped) hnodes⟩

/-- All lines of an inert source. -/
theorem exists_nodes_of_steps (hc : IsBracket c) {lines : List Text} {statements : List Statement}
    (hreads : List.Forall₂ Reads lines statements) (hliteral : ∀ line ∈ lines, ¬ Tagged line)
    (hescaped : ∀ line ∈ lines, Text.Escaped line)
    (hexpand : ∀ line ∈ lines, ∀ s nodes, Substitution.ofLine ctx line = .ok s → s.multiline = true →
      expand s.source = .ok nodes → WritesCount c nodes (s.source.count c)) :
    ∀ {steps : List Step}, List.Forall₂ (fun statement step => statement.toStep ctx expand = .ok step)
        statements steps →
      ∃ nodes, LinearBody nodes steps ∧ WritesCount c nodes (lines.flatten.count c) := by
  induction hreads with
  | nil =>
    rintro steps (_ | _)
    exact ⟨[], .nil, .nil⟩
  | cons hread _ ih =>
    rintro steps (_ | ⟨hstep, hsteps⟩)
    obtain ⟨hline, hlines⟩ := List.forall_mem_cons.1 hliteral
    obtain ⟨hlineEscaped, hlinesEscaped⟩ := List.forall_mem_cons.1 hescaped
    obtain ⟨hlineExpand, hlinesExpand⟩ := List.forall_mem_cons.1 hexpand
    obtain ⟨node, hnode, hwrites⟩ := exists_node_of_toStep hc hread hline hlineEscaped hlineExpand hstep
    obtain ⟨nodes, hnodes, hcount⟩ := ih hlines hlinesEscaped hlinesExpand hsteps
    refine ⟨node :: nodes, .cons hnode hnodes, ?_⟩
    rw [List.flatten_cons, List.count_append]
    exact hwrites nodes _ hcount

/-- The program of an inert source writes the brackets of the source. -/
theorem Text.Inert.writesCount (hc : IsBracket c) {buffer : String} {source : Text}
    {statements : List Statement} {steps : List Step} {program : Program} (h : source.Inert)
    (hstatements : Statement.ofLines buffer source.lines = .ok statements)
    (hexpand : ∀ inner nodes, (∀ t, Expands ctx inner t → Expands ctx source t) →
      expand inner = .ok nodes → WritesCount c nodes (inner.count c))
    (hsteps : statements.mapM (Statement.toStep ctx expand) = .ok steps)
    (hprogram : (Program.assemble steps).mapError TemplateError.evaluation = .ok program) :
    WritesCount c program.nodes (source.count c) := by
  obtain ⟨nodes, hnodes, hcount⟩ := exists_nodes_of_steps hc (Statement.reads_of_ofLines hstatements)
    h.tagless (fun line hline => h.escaped.of_mem_lines hline)
    (fun line hline s nodes hs hmultiline => hexpand s.source nodes fun t ht =>
      .value hline (h.tagless line hline) hs hmultiline ht)
    (mapM_eq_ok_iff.1 hsteps)
  have hassemble : Program.assemble steps = .ok ⟨nodes⟩ := Program.assemble_eq_ok_iff.2 hnodes
  rw [hassemble] at hprogram
  cases hprogram
  rwa [← Text.count_ofLines hc.ne_newline, Text.ofLines_lines] at hcount

end

namespace Renderer

variable {r : Renderer} {ctx : Context}

/-- A value of several lines, nested to any depth. -/
theorem expand_writesCount (hc : IsBracket c) :
    ∀ {levels : Nat} {source : Text} {nodes : List Node},
      (∀ inner, Expands ctx source inner → inner.Inert) → r.expand ctx levels source = .ok nodes →
      WritesCount c nodes (source.count c)
  | 0, _, _, _, h => by cases h
  | levels + 1, source, nodes, hsources, h => by
    rw [expand] at h
    obtain ⟨statements, hstatements, h⟩ := bind_eq_ok.1 h
    obtain ⟨steps, hsteps, h⟩ := bind_eq_ok.1 h
    obtain ⟨program, hprogram, h⟩ := bind_eq_ok.1 h
    cases h
    exact (hsources source (.refl source)).writesCount hc hstatements
      (fun inner nodes hinner => expand_writesCount hc fun t ht => hsources t (hinner t ht))
      hsteps hprogram

/-- Such a program is run to its end, and its page has the brackets of the source. -/
theorem count_of_written (hc : IsBracket c) {program : Program} {n : Nat} {page : Text}
    (h : WritesCount c program.nodes n) (hpage : r.written ctx program = .ok page) : page.count c = n := by
  obtain ⟨lines, hlines, hrun⟩ := h.run ⟨ctx, [], r.options.bufferName, #[]⟩
  rw [written, Program.evaluate_eq, hrun] at hpage
  have heq : Text.ofLines lines = page := by simpa [Except.map, Except.mapError] using hpage
  rw [← heq, Text.count_ofLines hc.ne_newline, hlines]

/-- If every placeholder asks for `escape` and no line controls a block, in the text and in every source that
a value of several lines makes of one of its lines, the page has as many brackets of either kind as the text,
whatever the values hold. -/
theorem renderString_keeps_brackets (r : Renderer) (text : String) (s s' : RenderState) (page : String)
    (hformat : r.options.formatOutput = false)
    (hcache : s.cache.Distinguishes ⟨text.toList, r.options.bufferName⟩)
    (hdirective : ∀ before rest after,
      text.toList ≠ before ++ SourcePart.opening ++ (rest ++ SourcePart.closing ++ after))
    (hsources : ∀ source, Expands (s.context.refresh s.clock.now) text.toList source → source.Inert)
    (hpage : (r.renderString text).run s = (.ok page, s')) :
    page.toList.count '<' = text.toList.count '<' ∧ page.toList.count '>' = text.toList.count '>' := by
  have hcount : ∀ c, IsBracket c → page.toList.count c = text.toList.count c := by
    intro c hc
    have hload : (Template.given text).load r.source = .ok (stringTemplate, text.toList) := rfl
    obtain ⟨cache, hrun⟩ := run_render_of_no_directive hload hcache hdirective
    have hrender : (r.render (.given text)).run s = (.ok page, s') := hpage
    rw [hrun] at hrender
    cases hprogram : Statement.ofLines r.options.bufferName (Text.lines text.toList) >>=
        r.program (s.context.refresh s.clock.now) with
    | error e =>
      rw [hprogram] at hrender
      cases hrender
    | ok program =>
      rw [hprogram] at hrender
      have hfinish := (Prod.ext_iff.1 hrender).1
      obtain ⟨written, hwritten, hfinish⟩ := bind_eq_ok.1 hfinish
      obtain ⟨statements, hstatements, hprogram⟩ := bind_eq_ok.1 hprogram
      obtain ⟨steps, hsteps, hassemble⟩ := bind_eq_ok.1 hprogram
      have hwrites := (hsources _ (.refl _)).writesCount hc hstatements
        (fun inner nodes hinner => expand_writesCount hc fun t ht => hsources t (hinner t ht))
        hsteps hassemble
      rw [finish, hformat] at hfinish
      cases hfinish
      rw [String.toList_ofList]
      exact count_of_written hc hwrites hwritten
  exact ⟨hcount '<' (.inl rfl), hcount '>' (.inr rfl)⟩

/-- A value with a tag of markup, and one of two lines in which a placeholder asks for `escape` again. -/
theorem renderString_keeps_brackets_of_nested_value :
    let text := "<b>\x7b\x7bname | escape\x7d\x7d</b>\n\x7b\x7bbio|strip|escape\x7d\x7d"
    let r : Renderer := { options := {}, source := fun name => .error (.templateNotFound name) }
    let s : RenderState :=
      { context := ⟨[("name", .str "<i>"), ("bio", .str "<p>\n\x7b\x7bname|escape\x7d\x7d")]⟩
        clock := ⟨fun _ => ⟨0, "", ""⟩, 0⟩, cache := [], programs := [] }
    (∀ source, Expands (s.context.refresh s.clock.now) text.toList source → source.Inert) ∧
      ∃ page s', (r.renderString text).run s = (.ok page, s') ∧ page.toList.count '<' = 2 ∧
        page.toList.count '>' = 2 := by
  intro text r s
  have hsources : ∀ source, Expands (s.context.refresh s.clock.now) text.toList source → source.Inert := by
    let sources := [text.toList, "&lt;p&gt;\n\x7b\x7bname|escape\x7d\x7d".toList]
    have hclosed : ∀ t ∈ sources, ∀ line ∈ Text.lines t,
        ((Substitution.ofLine (s.context.refresh s.clock.now) line).toOption.all fun sub =>
          !sub.multiline || sub.source ∈ sources) = true := by
      decide +kernel
    have hinert : ∀ t ∈ sources, Text.Inert t := by decide +kernel
    exact fun source h => hinert source (h.mem_of_closed hclosed List.mem_cons_self)
  refine ⟨hsources, ?_⟩
  have hok : ((r.renderString text).run s).1.toOption.isSome = true := by decide +kernel
  rcases hrun : (r.renderString text).run s with ⟨_ | page, s'⟩
  · rw [hrun] at hok
    cases hok
  · obtain ⟨hopen, hclose⟩ := renderString_keeps_brackets r text s s' page rfl ⟨[], rfl, by decide +kernel⟩
      (SourcePart.first?_eq_none_iff.1 (by decide +kernel)) hsources hrun
    exact ⟨page, s', rfl, hopen.trans (by decide +kernel), hclose.trans (by decide +kernel)⟩

/-- A value of two lines is source again, and a placeholder in it need not ask for `escape`. -/
theorem renderString_opens_value_of_several_lines :
    ¬ ∀ (r : Renderer) (text : String) (s s' : RenderState) (page : String),
      r.options.formatOutput = false → s.cache.Distinguishes ⟨text.toList, r.options.bufferName⟩ →
      (∀ before rest after,
        text.toList ≠ before ++ SourcePart.opening ++ (rest ++ SourcePart.closing ++ after)) →
      Text.Inert text.toList → (r.renderString text).run s = (.ok page, s') →
      page.toList.count '<' = text.toList.count '<' := by
  intro h
  let text := "\x7b\x7ba|escape\x7d\x7d"
  let r : Renderer := { options := {}, source := fun name => .error (.templateNotFound name) }
  let s : RenderState :=
    { context := ⟨[("a", .str "\x7b\x7bb\x7d\x7d\n"), ("b", .str "<")]⟩
      clock := ⟨fun _ => ⟨0, "", ""⟩, 0⟩, cache := [], programs := [] }
  have hpage : ((r.renderString text).run s).1.toOption = some "<\n" := by decide +kernel
  rcases hrun : (r.renderString text).run s with ⟨_ | page, s'⟩ <;> rw [hrun] at hpage <;> cases hpage
  have hcount := h r text s s' "<\n" rfl ⟨[], rfl, by decide +kernel⟩
    (SourcePart.first?_eq_none_iff.1 (by decide +kernel)) (by decide +kernel) hrun
  exact absurd hcount (by decide +kernel)

/-- A control line that a value brings along takes the bracket in front of the placeholder with it. -/
example :
    let r : Renderer := { options := {}, source := fun name => .error (.templateNotFound name) }
    ((r.renderString "<\x7b\x7ba|escape\x7d\x7d").run
      { context := ⟨[("a", .str "\x7b% if true %\x7d\nx\n\x7b% end %\x7d")]⟩
        clock := ⟨fun _ => ⟨0, "", ""⟩, 0⟩, cache := [], programs := [] }).1.toOption = some "x" := by
  decide +kernel

end Renderer

end PageTemplate
