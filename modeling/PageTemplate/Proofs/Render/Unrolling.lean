/-
Loops unrolled. In the body of a loop a placeholder of the loop variable is deferred and looked up for every
item, where without the loop it would be replaced by the value of the context; both show the same. So a loop
over a list writes the pages of its body, one for each item, with the variable put into the context.

The body is compiled and substituted once, before the items are known; this is why a list without items gives
an empty page only if the lines of the body can be expanded.
-/
import PageTemplate.Proofs.Program.Rounds
import PageTemplate.Proofs.Render.Conditions
import PageTemplate.Proofs.Render.Plain
import PageTemplate.Proofs.Render.Reserved

namespace PageTemplate

open Statement (Reads Tagged)

variable {ctx ctx' : Context} {name : String} {v : Value}

/-! ## One more name -/

/-- The second context has the value under the name, and is the first one otherwise, which lacks it. -/
structure Context.Binds (ctx ctx' : Context) (name : String) (v : Value) : Prop where
  absent : ctx.get? name = none
  value : ctx'.get? name = some v
  others : ctx.SameBut name ctx'

/-- The time is not absent from a context that was refreshed. -/
theorem Context.not_mem_timeNames {now : Reading} (h : (ctx.refresh now).get? name = none) :
    name ∉ timeNames := by
  intro hname
  simp only [timeNames, List.mem_cons, List.not_mem_nil, or_false] at hname
  unfold get? refresh at h
  rcases hname with rfl | rfl | rfl
  · rw [Fields.get?_insert_of_ne (by decide), Fields.get?_insert_of_ne (by decide),
      Fields.get?_insert_self] at h
    cases h
  · rw [Fields.get?_insert_of_ne (by decide), Fields.get?_insert_self] at h
    cases h
  · rw [Fields.get?_insert_self] at h
    cases h

theorem Context.binds_insert_refresh {now : Reading} (h : (ctx.refresh now).get? name = none) (v : Value) :
    (ctx.refresh now).Binds ((ctx.insert name v).refresh now) name v where
  absent := h
  value := by
    rw [get?_refresh (not_mem_timeNames h), get?, insert, Fields.get?_insert_self]
  others := (sameBut_insert ctx name v).refresh now

/-- What a placeholder stands for without the variable, it stands for with it. -/
theorem Context.Binds.resolves (h : ctx.Binds ctx' name v) {p : Placeholder} {t : Text}
    (ht : p.Resolves ctx t) : p.Resolves ctx' t := by
  obtain ⟨u, filters, hu, hfilters, rfl⟩ := ht
  have hne : p.name ≠ name := fun heq => by
    rw [heq, h.absent] at hu
    cases hu
  exact ⟨u, filters, (h.others _ hne).trans hu, hfilters, rfl⟩

/-- What is absent with the variable is absent without it. -/
theorem Context.Binds.replaceable (h : ctx.Binds ctx' name v) {buffer : String} {text : Text}
    (htext : Replaceable ctx buffer text) : Replaceable ctx' buffer text where
  known := htext.known
  hidden p hp hnone := by
    refine htext.hidden p hp ?_
    by_cases hname : p.name = name
    · exact hname ▸ h.absent
    · exact (h.others _ hname).symm.trans hnone

/-- A line emitted where the variable is bound shows what it shows in the context that has the variable. -/
theorem Substitution.Of.emitted_bound {line : Text} {s : Substitution} (h : Of ctx line s)
    (hbinds : ctx.Binds ctx' name v) :
    Text.Replaced (Placeholder.Shows ctx') line
      (s.segments.flatMap (·.emitted (Env.bound ctx.get? [(name, v)]))) := by
  have hvalue : Env.bound ctx.get? [(name, v)] name = some v := by simp [Env.bound, Fields.get?]
  have hothers : ∀ n ≠ name, Env.bound ctx.get? [(name, v)] n = ctx.get? n := fun n hn => by
    simp [Env.bound, Fields.get?, hn.symm]
  refine (h.replaced (·.emitted (Env.bound ctx.get? [(name, v)])) fun _ => rfl).imp fun p t _ ht => ?_
  obtain ⟨res, hres, rfl⟩ := ht
  cases hres with
  | value hresolves => exact .value (hbinds.resolves hresolves)
  | @deferred filters hnone hfilters =>
    show Placeholder.Shows ctx' p (Segment.emitted _ (.deferred ⟨p.raw, p.name, p.attr, filters⟩))
    rw [Segment.emitted]
    -- the variable is the one absent name that the second context has; all others lose their outer braces in both
    by_cases hname : p.name = name
    · dsimp only
      rw [hname, hvalue]
      exact .value ⟨v, filters, by rw [hname, hbinds.value], hfilters, rfl⟩
    · dsimp only
      rw [hothers _ hname, hnone]
      exact .stripped ((hbinds.others _ hname).trans hnone)

/-! ## The body of a loop -/

/-- An instruction emits a line that was substituted. -/
def Node.Emits (ctx : Context) (line : Text) (node : Node) : Prop :=
  ∃ s : Substitution, Substitution.ofLine ctx line = .ok s ∧ node = .emit s.segments

/-- The body writes its lines as the context shows them that has the variable. -/
theorem exists_linesOf_bound (hbinds : ctx.Binds ctx' name v) {body : List Text} {nodes : List Node}
    (h : List.Forall₂ (Node.Emits ctx) body nodes) :
    ∃ lines, linesOf nodes (Env.bound ctx.get? [(name, v)]) = .ok lines ∧
      List.Forall₂ (Text.Replaced (Placeholder.Shows ctx')) body lines := by
  induction h with
  | nil => exact ⟨[], rfl, .nil⟩
  | cons hline _ ih =>
    obtain ⟨s, hs, rfl⟩ := hline
    obtain ⟨lines, hlines, hreplaced⟩ := ih
    refine ⟨_ :: lines, ?_, .cons ((Substitution.of_ofLine hs).emitted_bound hbinds) hreplaced⟩
    rw [linesOf, hlines]
    rfl

/-- The body does not look at the output, if no absent placeholder is named like it. -/
theorem not_mem_namesOf_of_emits {buffer : String} {body : List Text} {nodes : List Node}
    (h : List.Forall₂ (Node.Emits ctx) body nodes)
    (hhidden : ∀ line ∈ body, ∀ p : Placeholder, p.In line → ctx.get? p.name = none → p.name ≠ buffer) :
    buffer ∉ namesOf nodes := by
  induction h with
  | nil => exact List.not_mem_nil
  | cons hline _ ih =>
    obtain ⟨s, hs, rfl⟩ := hline
    obtain ⟨hfirst, hrest⟩ := List.forall_mem_cons.1 hhidden
    rw [namesOf, Node.names]
    refine List.not_mem_append (fun hbuffer => ?_) (ih hrest)
    obtain ⟨segment, hsegment, hname⟩ := List.mem_filterMap.1 hbuffer
    cases segment with
    | text => cases hname
    | deferred d =>
      obtain ⟨p, hp, hbecomes⟩ := (Substitution.of_ofLine hs).deferred d hsegment
      cases hbecomes with
      | deferred hnone => exact hfirst p hp hnone (Option.some.inj hname)

/-- Literal lines with a step each become instructions with the properties of the steps. -/
theorem exists_body_of_reads {expand : Text → Except TemplateError (List Node)} {R : Text → Node → Prop}
    {lines : List Text} {statements : List Statement} (hreads : List.Forall₂ Reads lines statements)
    (hliteral : ∀ line ∈ lines, ¬ Tagged line)
    (h : ∀ line ∈ lines, ∃ step node, node.Linear [step] ∧ R line node ∧
      ∀ l : Literal, l.content = line → Statement.toStep ctx expand (.literal l) = .ok step) :
    ∃ steps nodes, List.Forall₂ (fun statement step => Statement.toStep ctx expand statement = .ok step)
      statements steps ∧ LinearBody nodes steps ∧ List.Forall₂ R lines nodes := by
  induction hreads with
  | nil => exact ⟨[], [], .nil, .nil, .nil⟩
  | cons hread _ ih =>
    obtain ⟨hfirst, hrest⟩ := List.forall_mem_cons.1 hliteral
    obtain ⟨⟨step, node, hnode, hrel, hstep⟩, hmore⟩ := List.forall_mem_cons.1 h
    obtain ⟨steps, nodes, hsteps, hnodes, hall⟩ := ih hrest hmore
    obtain ⟨l, rfl, hcontent⟩ := hread.of_literal hfirst
    exact ⟨step :: steps, node :: nodes, .cons (hstep l hcontent) hsteps, .cons hnode hnodes, .cons hrel hall⟩

/-! ## Loops over a list -/

/-- The lines of a loop over a list are those of its body, for one item after the other. -/
theorem linesOf_loop {env : Env} {source : String} {items : List Value} (h : env source = some (.list items))
    (body : List Node) :
    linesOf [.loop ⟨[name], .name source⟩ body] env =
      (items.mapM fun item => linesOf body (env.bound [(name, item)])).map List.flatten := by
  have hbody : (fun item => do
      let bindings ← LoopHeader.bindings ⟨[name], .name source⟩ item
      linesOf body (env.bound bindings)) = fun item => linesOf body (env.bound [(name, item)]) := rfl
  rw [linesOf, Node.lines, Expr.eval, h]
  show (do let lines ← items.mapM _; return lines.flatten : Except EvaluationFault (List Text)) >>= _ = _
  rw [hbody]
  cases items.mapM fun item => linesOf body (env.bound [(name, item)]) with
  | error fault => rfl
  | ok lines =>
    show Except.ok (lines.flatten ++ []) = .ok lines.flatten
    rw [List.append_nil]

/-- A loop over a list without items does nothing, whatever its body is. -/
theorem run_loop_nil {source : String} {scope : Scope} (h : scope.get? source = some (.list [])) (body : List Node) :
    (Node.run (.loop ⟨[name], .name source⟩ body)).run scope = (.ok (), scope) := by
  rw [run_loop body (Expr.eval_name h)]
  rfl

theorem Text.ofLines_flatten : ∀ {groups : List (List Text)}, (∀ lines ∈ groups, lines ≠ []) →
    ofLines groups.flatten = ofLines (groups.map ofLines)
  | [], _ => rfl
  | [lines], _ => by simp [ofLines]
  | lines :: next :: groups, h => by
    obtain ⟨hlines, hrest⟩ := List.forall_mem_cons.1 h
    have hne : (next :: groups).flatten ≠ [] :=
      List.append_ne_nil_of_left_ne_nil (hrest next List.mem_cons_self) groups.flatten
    have ih := ofLines_flatten hrest
    show ofLines (lines ++ (next :: groups).flatten) = _
    rw [ofLines_append hne hlines, ih]
    rfl

/-- The lines of a template with one loop. -/
def Text.looped (name source : String) (body : List Text) : List Text :=
  Keyword.forLoop.line (some (name.toList ++ (" in ".toList ++ source.toList))) ::
    (body ++ [Keyword.endBlock.line none])

theorem Text.forall_mem_looped {P : Text → Prop} {name source : String} {body : List Text} :
    (∀ line ∈ looped name source body, P line) ↔
      P (Keyword.forLoop.line (some (name.toList ++ (" in ".toList ++ source.toList)))) ∧
        (∀ line ∈ body, P line) ∧ P (Keyword.endBlock.line none) := by
  rw [looped, List.forall_mem_cons, List.forall_mem_append, List.forall_mem_singleton]

/-- The header of such a loop, with what keeps it as it is written. -/
theorem Text.loopHeader {name source : String} (hname : Symbol.IsIdentifier name.toList)
    (hsource : Symbol.IsIdentifier source.toList) :
    let header := name.toList ++ (" in ".toList ++ source.toList)
    header ≠ [] ∧ trim header = header ∧ '{' ∉ header ∧ '\n' ∉ header := by
  intro header
  have hwhole : header = (name.toList ++ " in ".toList) ++ source.toList := (List.append_assoc _ _ _).symm
  refine ⟨List.append_ne_nil_of_left_ne_nil hname.nonempty _, trim_eq_self (fun c hc => ?_) fun c hc => ?_, ?_, ?_⟩
  · rw [List.head?_append_of_ne_nil _ hname.nonempty] at hc
    exact hname.not_isBlank c (List.mem_of_mem_head? hc)
  · rw [hwhole, List.getLast?_append_of_ne_nil _ hsource.nonempty] at hc
    exact hsource.not_isBlank c (List.mem_of_mem_getLast? hc)
  · exact List.not_mem_append hname.not_mem.1 (List.not_mem_append (by decide +kernel) hsource.not_mem.1)
  · exact List.not_mem_append hname.not_mem.2 (List.not_mem_append (by decide +kernel) hsource.not_mem.2)

theorem Expr.parseHeader_loop {name source : String} (hname : Symbol.IsIdentifier name.toList)
    (hname' : IsName name) (hsource : Symbol.IsIdentifier source.toList) (hsource' : IsName source)
    (hliteral : ∀ u, (source, u) ∉ literalWords) :
    parseHeader (name.toList ++ (" in ".toList ++ source.toList)) = .ok ⟨[name], .name source⟩ := by
  have hprintable : (Expr.name source).Printable := ⟨hsource, hsource', hliteral⟩
  exact (Printed.operand hprintable.operand_name).parseHeader (spelled_name_self hsource) hname hname'

namespace Renderer

variable {r : Renderer} {bound : Value → Context} {expand : Text → Except TemplateError (List Node)}

/-- The statements of a template with one loop make the program of this loop. -/
theorem exists_program_looped {name source : String} {body : List Text} {R : Text → Node → Prop}
    (hname : Symbol.IsIdentifier name.toList) (hname' : Expr.IsName name)
    (hsource : Symbol.IsIdentifier source.toList) (hsource' : Expr.IsName source)
    (hliteral : ∀ u, (source, u) ∉ Expr.literalWords) (hbody : ∀ line ∈ body, ¬ Tagged line)
    (h : ∀ line ∈ body, ∃ step node, node.Linear [step] ∧ R line node ∧ ∀ l : Literal, l.content = line →
      Statement.toStep ctx (r.expand ctx r.options.maxIncludeDepth) (.literal l) = .ok step) :
    ∃ nodes, List.Forall₂ R body nodes ∧
      Statement.ofLines r.options.bufferName (Text.looped name source body) >>= r.program ctx =
        .ok ⟨[.loop ⟨[name], .name source⟩ nodes]⟩ := by
  obtain ⟨hne, htrim, hbrace, -⟩ := Text.loopHeader hname hsource
  have hfor := Keyword.readControl_line .forLoop rfl hne htrim
  have hend := Keyword.readControl_line_none .endBlock rfl
  have hreadable : ∀ line ∈ Text.looped name source body, ∃ statement, Reads line statement :=
    Text.forall_mem_looped.2 ⟨Statement.exists_reads_of_control (Keyword.tagged_line _ _) hfor,
      fun line hline => Statement.exists_reads_of_literal (hbody line hline),
      Statement.exists_reads_of_control (Keyword.tagged_line _ _) hend⟩
  obtain ⟨statements, hstatements, hreads⟩ := Statement.exists_ofLines_of_reads hreadable
  obtain _ | ⟨hfirst, hreads⟩ := hreads
  obtain ⟨middle, last, rfl, hmiddle, hlast⟩ := exists_append_of_forall₂ hreads
  obtain _ | ⟨hlast, _ | _⟩ := hlast
  obtain ⟨c, rfl, hkeyword, hcondition⟩ := hfirst.of_control (Keyword.tagged_line _ _) hfor
  obtain ⟨d, rfl, hkeyword', hcondition'⟩ := hlast.of_control (Keyword.tagged_line _ _) hend
  obtain ⟨sub, hsub, -, hself⟩ := exists_ofLine_of_not_mem hbrace ctx
  obtain ⟨steps, nodes, hsteps, hnodes, hrel⟩ := exists_body_of_reads hmiddle hbody h
  have htests : Control.Loops { c with condition := some sub.text } ⟨[name], .name source⟩ := by
    refine ⟨hkeyword, ?_⟩
    show Expr.parseHeader sub.text = _
    rw [Substitution.text, hself Segment.shown fun _ => rfl]
    exact Expr.parseHeader_loop hname hname' hsource hsource' hliteral
  have hall : r.steps ctx (.control c :: (middle ++ [.control d])) =
      .ok (.control { c with condition := some sub.text } :: (steps ++ [.control d])) :=
    mapM_eq_ok_iff.2 (.cons (Statement.toStep_of_condition hcondition hsub)
      (List.rel_append hsteps (.cons (Statement.toStep_of_no_condition hcondition') .nil)))
  have hlinear := LinearBody.cons (Node.Linear.loop htests hnodes hkeyword') .nil
  rw [List.append_nil] at hlinear
  refine ⟨nodes, hrel, ?_⟩
  rw [hstatements, ok_bind, program, hall, ok_bind]
  exact mapError_eq_ok.2 (Program.assemble_eq_ok_iff.2 hlinear)

/-- A program that does not look at the output writes its lines. -/
theorem written_of_linesOf {program : Program} {lines : List Text}
    (hhidden : r.options.bufferName ∉ namesOf program.nodes) (h : linesOf program.nodes ctx.get? = .ok lines) :
    r.written ctx program = .ok (Text.ofLines lines) := by
  rw [written, Program.evaluate_eq_linesOf hhidden ctx, h]
  rfl

/-- A loop over a list without items writes an empty page. -/
theorem written_loop_nil {source : String} (h : ctx.get? source = some (.list []))
    (hbuffer : source ≠ r.options.bufferName) (nodes : List Node) :
    r.written ctx ⟨[.loop ⟨[name], .name source⟩ nodes]⟩ = .ok [] := by
  have hget : Scope.get? ⟨ctx, [], r.options.bufferName, #[]⟩ source = some (.list []) :=
    (Scope.fresh_of_ne hbuffer).trans h
  rw [written, Program.evaluate_eq, runNodes_singleton, run_loop_nil hget]
  rfl

/-- A body without the loop, in a context that has the variable. -/
theorem run_body {s : RenderState} {body lines : List Text} (hformat : r.options.formatOutput = false)
    (hcache : s.cache.Distinguishes ⟨Text.ofLines body, r.options.bufferName⟩)
    (hne : body ≠ []) (hnewline : ∀ line ∈ body, '\n' ∉ line)
    (hdirective : ∀ line ∈ body, ¬ SourcePart.opening <:+: line) (hbody : ∀ line ∈ body, ¬ Tagged line)
    (hplaceholders : Replaceable (s.context.refresh s.clock.now) r.options.bufferName (Text.ofLines body))
    (hvalues : ValuesAre ('\n' ∉ ·) (s.context.refresh s.clock.now) (Text.ofLines body))
    (hlines : List.Forall₂ (Text.Replaced (Placeholder.Shows (s.context.refresh s.clock.now))) body lines) :
    ∃ s', (r.renderString (String.ofList (Text.ofLines body))).run s =
      (.ok (String.ofList (Text.ofLines lines)), s') := by
  obtain ⟨calls, hhistory, hapart⟩ := hcache
  have htext : (String.ofList (Text.ofLines body)).toList = Text.ofLines body := String.toList_ofList
  have hsplit := Text.lines_ofLines hne hnewline
  have hwrites : ∀ line ∈ (Text.ofLines body).lines, ∃ t,
      Text.Replaced (Placeholder.Shows (s.context.refresh s.clock.now)) line t ∧
      LineWrites (s.context.refresh s.clock.now)
        (r.expand (s.context.refresh s.clock.now) r.options.maxIncludeDepth) r.options.bufferName line t :=
    fun line hline => exists_lineWrites_of_single (hplaceholders.of_mem_lines hline)
      (fun p t hp => hvalues p t (hp.of_mem_lines hline)) _
  obtain ⟨page, s', hrun, hunique⟩ := exists_renderString_of_lines (r := r) (s := s) hformat hhistory
    (by rw [htext]; exact hapart) (by rw [htext]; exact Text.no_directive_ofLines body hdirective)
    (by rw [htext, Tagless, hsplit]; exact hbody) (by rw [htext]; exact hwrites)
  rw [htext] at hunique
  rw [(hunique _).1 (Text.Replaced.ofLines hlines)]
  exact ⟨s', hrun⟩

/-- Every line of the body becomes an instruction. Where there is an item, this emits the line. -/
theorem exists_step_of_line {buffer : String} {line : Text} {items : List Value}
    (hbinds : ∀ v, ctx.Binds (bound v) name v) (hline : Replaceable ctx buffer line)
    (hvalues : ∀ v ∈ items, ValuesAre ('\n' ∉ ·) (bound v) line)
    (hexpand : items = [] → ∀ sub, Substitution.ofLine ctx line = .ok sub → sub.multiline = true →
      ∃ nodes, expand sub.source = .ok nodes) :
    ∃ (step : Step) (node : Node), node.Linear [step] ∧ (items ≠ [] → node.Emits ctx line) ∧
      ∀ l : Literal, l.content = line → Statement.toStep ctx expand (.literal l) = .ok step := by
  obtain ⟨sub, hsub⟩ := Substitution.exists_ofLine ctx hline.known
  cases hmultiline : sub.multiline with
  | false =>
    refine ⟨.emit sub.segments, .emit sub.segments, .emit _, fun _ => ⟨sub, hsub, rfl⟩, ?_⟩
    rintro l rfl
    exact Statement.toStep_of_single hsub hmultiline
  | true =>
    -- a value of several lines is one for every item, so there are none
    have hnone : items = [] := by
      refine List.eq_nil_iff_forall_not_mem.2 fun v hv => ?_
      obtain ⟨p, t, hp, ht, hbreak⟩ := (Substitution.of_ofLine hsub).multiline hmultiline
      exact hvalues v hv p t hp ((hbinds v).resolves ht) hbreak
    obtain ⟨nodes, hnodes⟩ := hexpand hnone sub hsub hmultiline
    refine ⟨.block nodes, .block nodes, .block nodes, fun h => absurd hnone h, ?_⟩
    rintro l rfl
    exact Statement.toStep_of_multiline hsub hmultiline hnodes

/-- The loop writes what its body writes for each of the items. -/
theorem written_loop {source : String} {items : List Value} {body : List Text} {nodes : List Node}
    (hbinds : ∀ v, ctx.Binds (bound v) name v) (hitems : ctx.get? source = some (.list items))
    (hbuffer : source ≠ r.options.bufferName) (hne : body ≠ [])
    (hhidden : ∀ line ∈ body, ∀ p : Placeholder, p.In line → ctx.get? p.name = none →
      p.name ≠ r.options.bufferName)
    (h : List.Forall₂ (Node.Emits ctx) body nodes) :
    ∃ groups : List (List Text),
      List.Forall₂ (fun v lines => List.Forall₂ (Text.Replaced (Placeholder.Shows (bound v))) body lines) items
        groups ∧
      r.written ctx ⟨[.loop ⟨[name], .name source⟩ nodes]⟩ =
        .ok (Text.ofLines (groups.map Text.ofLines)) := by
  obtain ⟨groups, hgroups, hshown⟩ := exists_mapM_of_forall fun v (_ : v ∈ items) =>
    exists_linesOf_bound (hbinds v) h
  have hlines : linesOf [.loop ⟨[name], .name source⟩ nodes] ctx.get? = .ok groups.flatten := by
    rw [linesOf_loop hitems, hgroups]
    rfl
  have hnames : r.options.bufferName ∉ namesOf [.loop ⟨[name], .name source⟩ nodes] := by
    have hbody := not_mem_namesOf_of_emits h hhidden
    simp [namesOf, Node.names, Expr.names, hbody, hbuffer.symm]
  have hnonempty : ∀ lines ∈ groups, lines ≠ [] := fun lines hmem => by
    obtain ⟨v, -, hv⟩ := exists_right_of_forall₂ hshown.flip hmem
    rintro rfl
    cases hv
    exact hne rfl
  refine ⟨groups, hshown, ?_⟩
  rw [written_of_linesOf hnames hlines, Text.ofLines_flatten hnonempty]

/-- A loop over a list is its body, once for each item with the variable in the context, and a line break
between neighbours. The page is empty for a list without items, if every line of the body that a value of
several lines is put into can be expanded. -/
theorem renderString_unrolls_loop (r : Renderer) (s : RenderState) (name source : String) (items : List Value)
    (body : List Text) (hformat : r.options.formatOutput = false)
    (hcache : s.cache.Distinguishes ⟨Text.ofLines (Text.looped name source body), r.options.bufferName⟩)
    (hcache' : s.cache.Distinguishes ⟨Text.ofLines body, r.options.bufferName⟩)
    (hname : Placeholder.IsName name.toList) (hname' : Expr.IsName name)
    (habsent : (s.context.refresh s.clock.now).get? name = none)
    (hsource : Symbol.IsIdentifier source.toList) (hsource' : Expr.IsName source)
    (hliteral : ∀ u, (source, u) ∉ Expr.literalWords) (hbuffer : source ≠ r.options.bufferName)
    (hitems : (s.context.refresh s.clock.now).get? source = some (.list items))
    (hne : body ≠ []) (hnewline : ∀ line ∈ body, '\n' ∉ line)
    (hdirective : ∀ line ∈ body, ¬ SourcePart.opening <:+: line) (hbody : ∀ line ∈ body, ¬ Tagged line)
    (hplaceholders : Replaceable (s.context.refresh s.clock.now) r.options.bufferName (Text.ofLines body))
    (hvalues : ∀ v ∈ items,
      ValuesAre ('\n' ∉ ·) ((s.context.insert name v).refresh s.clock.now) (Text.ofLines body))
    (hexpand : items = [] → ∀ line ∈ body, ∀ sub,
      Substitution.ofLine (s.context.refresh s.clock.now) line = .ok sub → sub.multiline = true →
      ∃ nodes, r.expand (s.context.refresh s.clock.now) r.options.maxIncludeDepth sub.source = .ok nodes) :
    ∃ pages : List String,
      List.Forall₂ (fun v page => ∃ s', (r.renderString (String.ofList (Text.ofLines body))).run
        { s with context := s.context.insert name v } = (.ok page, s')) items pages ∧
      ∃ s', (r.renderString (String.ofList (Text.ofLines (Text.looped name source body)))).run s =
        (.ok (String.ofList (Text.ofLines (pages.map String.toList))), s') := by
  -- what the items are put into
  let ctx := s.context.refresh s.clock.now
  let bound : Value → Context := fun v => (s.context.insert name v).refresh s.clock.now
  have hbinds : ∀ v, ctx.Binds (bound v) name v := Context.binds_insert_refresh habsent
  have hlines := Text.lines_ofLines hne hnewline
  have hof : ∀ line ∈ body, line ∈ (Text.ofLines body).lines := fun line hline => hlines.symm ▸ hline
  have hhidden : ∀ line ∈ body, ∀ p : Placeholder, p.In line → ctx.get? p.name = none →
      p.name ≠ r.options.bufferName := fun line hline => (hplaceholders.of_mem_lines (hof line hline)).hidden
  -- the program
  obtain ⟨nodes, hnodes, hprogram⟩ := exists_program_looped
    (R := fun line node => items ≠ [] → node.Emits ctx line) hname.isIdentifier hname' hsource hsource' hliteral hbody
    fun line hline => exists_step_of_line hbinds (hplaceholders.of_mem_lines (hof line hline))
      (fun v hv p t hp => hvalues v hv p t (hp.of_mem_lines (hof line hline))) fun hnone => hexpand hnone line hline
  obtain ⟨-, -, hbrace, hbreak⟩ := Text.loopHeader hname.isIdentifier hsource
  have hopening : ∀ line ∈ Text.looped name source body, ¬ SourcePart.opening <:+: line :=
    Text.forall_mem_looped.2 ⟨Keyword.opening_not_infix_line _ (.of_not_mem hbrace), hdirective,
      Keyword.opening_not_infix_line _ .nil⟩
  have hsplit : ∀ line ∈ Text.looped name source body, '\n' ∉ line :=
    Text.forall_mem_looped.2 ⟨Keyword.newline_not_mem_line _ hbreak, hnewline,
      Keyword.newline_not_mem_line _ (by simp)⟩
  have hrun := run_lines hcache (List.cons_ne_nil _ _) hsplit hopening hprogram
  have hfinish : ∀ page, r.finish page = .ok page := fun page => by
    rw [finish, hformat]
    rfl
  simp only [hfinish] at hrun
  rcases items with _ | ⟨first, items⟩
  · -- no item: the loop does nothing
    refine ⟨[], .nil, _, Prod.ext (hrun.trans ?_) rfl⟩
    rw [written_loop_nil hitems hbuffer]
    rfl
  · -- each page of the body is one group of lines
    obtain ⟨groups, hgroups, hwritten⟩ := written_loop hbinds hitems hbuffer hne hhidden
      (hnodes.imp fun _ _ h => h (List.cons_ne_nil _ _))
    refine ⟨groups.map fun lines => String.ofList (Text.ofLines lines), ?_, _, Prod.ext (hrun.trans ?_) rfl⟩
    · refine List.forall₂_map_right_iff.2 (((List.forall₂_and_left _ _).2 ⟨hvalues, hgroups⟩).imp ?_)
      rintro v lines ⟨hsingle, hshown⟩
      exact run_body (s := { s with context := s.context.insert name v }) hformat hcache' hne hnewline hdirective
        hbody ((hbinds v).replaceable hplaceholders) hsingle hshown
    · rw [hwritten, ok_bind, List.map_map]
      simp only [Function.comp_def, String.toList_ofList]

/-- The variable is null and then a text, in a body with filters, a name of the context and an absent one. -/
theorem renderString_unrolls_loop_of_two_items :
    let r : Renderer := { options := {}, source := fun name => .error (.templateNotFound name) }
    let items : List Value := [.null, .str "b"]
    let s : RenderState :=
      { context := ⟨[("xs", .list items), ("y", .int 7)]⟩, clock := ⟨fun _ => ⟨0, "", ""⟩, 0⟩, cache := [],
        programs := [] }
    let body : List Text :=
      ["\x7b\x7bx|upper\x7d\x7d-\x7b\x7by\x7d\x7d".toList, "\x7b\x7b x.name \x7d\x7d \x7b\x7bz\x7d\x7d".toList]
    ∃ pages : List String,
      List.Forall₂ (fun v page => ∃ s', (r.renderString (String.ofList (Text.ofLines body))).run
        { s with context := s.context.insert "x" v } = (.ok page, s')) items pages ∧
      String.ofList (Text.ofLines (pages.map String.toList)) = "-7\n \x7bz\x7d\nB-7\nb \x7bz\x7d" := by
  intro r items s body
  have hname : Placeholder.IsName "x".toList := by decide +kernel
  have hsource : Placeholder.IsName "xs".toList := by decide +kernel
  obtain ⟨pages, hpages, s', hrun⟩ := renderString_unrolls_loop r s "x" "xs" items body rfl
    ⟨[], rfl, by decide +kernel⟩ ⟨[], rfl, by decide +kernel⟩ hname (by decide) rfl
    hsource.isIdentifier (by decide) (by simp [Expr.literalWords]) (by decide) rfl (by decide)
    (by decide +kernel) (by decide +kernel) (by decide +kernel) (by decide +kernel) (by decide +kernel)
    fun hnone => absurd hnone (by decide)
  have hshown : ((r.renderString (String.ofList (Text.ofLines (Text.looped "x" "xs" body)))).run s).1.toOption =
      some "-7\n \x7bz\x7d\nB-7\nb \x7bz\x7d" := by
    decide +kernel
  rw [hrun] at hshown
  exact ⟨pages, hpages, Option.some.inj hshown⟩

/-- A line of the body that cannot be expanded is refused, also where there is no item to show it for. -/
theorem renderString_refuses_body_without_items :
    ¬ ∀ (r : Renderer) (s : RenderState) (name source : String) (items : List Value) (body : List Text),
      r.options.formatOutput = false →
      s.cache.Distinguishes ⟨Text.ofLines (Text.looped name source body), r.options.bufferName⟩ →
      s.cache.Distinguishes ⟨Text.ofLines body, r.options.bufferName⟩ →
      Placeholder.IsName name.toList → Expr.IsName name → name ≠ r.options.bufferName →
      (s.context.refresh s.clock.now).get? name = none →
      Symbol.IsIdentifier source.toList → Expr.IsName source → (∀ u, (source, u) ∉ Expr.literalWords) →
      source ≠ r.options.bufferName → (s.context.refresh s.clock.now).get? source = some (.list items) →
      body ≠ [] → (∀ line ∈ body, '\n' ∉ line) → (∀ line ∈ body, ¬ SourcePart.opening <:+: line) →
      (∀ line ∈ body, ¬ Tagged line) →
      Replaceable (s.context.refresh s.clock.now) r.options.bufferName (Text.ofLines body) →
      (∀ v ∈ items,
        ValuesAre ('\n' ∉ ·) ((s.context.insert name v).refresh s.clock.now) (Text.ofLines body)) →
      ∃ pages : List String,
        List.Forall₂ (fun v page => ∃ s', (r.renderString (String.ofList (Text.ofLines body))).run
          { s with context := s.context.insert name v } = (.ok page, s')) items pages ∧
        ∃ s', (r.renderString (String.ofList (Text.ofLines (Text.looped name source body)))).run s =
          (.ok (String.ofList (Text.ofLines (pages.map String.toList))), s') := by
  intro h
  let r : Renderer := { options := {}, source := fun name => .error (.templateNotFound name) }
  let s : RenderState :=
    { context := ⟨[("xs", .list []), ("y", .str "\n\x7b% end %\x7d")]⟩
      clock := ⟨fun _ => ⟨0, "", ""⟩, 0⟩, cache := [], programs := [] }
  have hname : Placeholder.IsName "x".toList := by decide +kernel
  have hsource : Placeholder.IsName "xs".toList := by decide +kernel
  obtain ⟨pages, -, s', hrun⟩ := h r s "x" "xs" [] ["\x7b\x7by\x7d\x7d".toList] rfl
    ⟨[], rfl, by decide +kernel⟩ ⟨[], rfl, by decide +kernel⟩ hname (by decide) (by decide) rfl
    hsource.isIdentifier (by decide) (by simp [Expr.literalWords]) (by decide) rfl (by decide)
    (by decide +kernel) (by decide +kernel) (by decide +kernel) (by decide +kernel) (List.forall_mem_nil _)
  have hrefused : ((r.renderString (String.ofList (Text.ofLines
      (Text.looped "x" "xs" ["\x7b\x7by\x7d\x7d".toList])))).run s).1.toOption = none := by
    decide +kernel
  rw [hrun] at hrefused
  cases hrefused

end Renderer

end PageTemplate
