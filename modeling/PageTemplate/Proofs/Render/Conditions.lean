/-
Pages with one condition. A template that shows one of two lines is compiled, assembled and run to its end
whatever its condition is, as long as this is an expression; so its page is decided by the value of the
condition where nothing has been written yet. A placeholder in the condition becomes text before the
condition is read, and an integer or a boolean comes out of that as it went in, with the exception of the
least integer, whose digits without the sign are no integer. Between quotes a placeholder becomes a literal
text, whatever stands in it besides a double quote.
-/
import PageTemplate.Proofs.Context
import PageTemplate.Proofs.Expr.Printing
import PageTemplate.Proofs.Line.Tags
import PageTemplate.Proofs.Program.Assembled
import PageTemplate.Proofs.Program.Reserved
import PageTemplate.Proofs.Render.Template

namespace PageTemplate

open Statement (Reads Tagged)

/-- A template of lines that has a program gives the page that the program writes. -/
theorem Renderer.run_lines {r : Renderer} {s : RenderState} {lines : List Text} {program : Program}
    (hcache : s.cache.Distinguishes ⟨Text.ofLines lines, r.options.bufferName⟩) (hne : lines ≠ [])
    (hnewline : ∀ line ∈ lines, '\n' ∉ line) (hdirective : ∀ line ∈ lines, ¬ SourcePart.opening <:+: line)
    (hprogram : Statement.ofLines r.options.bufferName lines >>= r.program (s.context.refresh s.clock.now) =
      .ok program) :
    ((r.renderString (String.ofList (Text.ofLines lines))).run s).1 =
      (r.written (s.context.refresh s.clock.now) program >>= fun page => r.finish (String.ofList page)) := by
  have hload : (Template.given (String.ofList (Text.ofLines lines))).load r.source =
      .ok (stringTemplate, Text.ofLines lines) := by
    rw [Template.load, String.toList_ofList]
  obtain ⟨cache, hrun⟩ :=
    run_render_of_no_directive hload hcache (Text.no_directive_ofLines lines hdirective)
  show ((r.render (.given _)).run s).1 = _
  rw [hrun, Text.lines_ofLines hne hnewline, hprogram]

/-! ## One condition -/

/-- The lines of a template that shows the first line or the second one. -/
def Text.conditional (condition first second : Text) : List Text :=
  [Keyword.ifBlock.line (some condition), first, Keyword.elseBranch.line none, second,
    Keyword.endBlock.line none]

/-- What names stand for where nothing has been written. -/
def Scope.fresh (ctx : Context) (buffer : String) : String → Option Value :=
  Scope.get? ⟨ctx, [], buffer, #[]⟩

/-- A name other than that of the output stands for what the context has. -/
theorem Scope.fresh_of_ne {ctx : Context} {buffer name : String} (h : name ≠ buffer) :
    fresh ctx buffer name = ctx.get? name := by
  show Scope.get? _ _ = _
  unfold Scope.get?
  rw [if_neg h]
  rfl

/-- A choice runs one of its bodies, or nothing if the condition has no value. -/
theorem run_choice {e : Expr} {body other : List Node} (scope : Scope) :
    (Node.run (.choice (.test e body (.otherwise other)))).run scope =
      match e.eval scope.get? with
      | .error fault => (.error fault, scope)
      | .ok v => (if v.isTruthy then runNodes body else runNodes other).run scope := by
  have hget : (get : Run Scope).run scope = (.ok scope, scope) := rfl
  rw [Node.run, Arms.run, run_bind, hget]
  dsimp only
  rw [run_bind, run_lift]
  cases e.eval scope.get? with
  | error fault => rfl
  | ok v =>
    dsimp only
    rw [Arms.run]

/-- A choice between two lines writes one of them. -/
theorem Program.evaluate_choice {ctx : Context} {buffer : String} {e : Expr} {a b : List Segment}
    {first second : Text} (ha : ∀ env, a.flatMap (·.emitted env) = first)
    (hb : ∀ env, b.flatMap (·.emitted env) = second) :
    Program.evaluate ⟨[.choice (.test e [.emit a] (.otherwise [.emit b]))]⟩ ctx buffer =
      (e.eval (Scope.fresh ctx buffer)).map fun v => [if v.isTruthy then first else second] := by
  have hemit : ∀ (segments : List Segment) (line : Text), (∀ env, segments.flatMap (·.emitted env) = line) →
      ∀ scope : Scope, (runNodes [.emit segments]).run scope = (.ok (), scope.append line) := by
    intro segments line hline scope
    rw [runNodes_singleton, ← hline scope.get?]
    rfl
  rw [evaluate_eq, runNodes_singleton, run_choice, Scope.fresh]
  cases e.eval (Scope.get? ⟨ctx, [], buffer, #[]⟩) with
  | error fault => rfl
  | ok v =>
    dsimp only
    by_cases hv : v.isTruthy = true
    · rw [if_pos hv, hemit a first ha]
      show Except.ok [first] = Except.ok [if v.isTruthy then first else second]
      rw [if_pos hv]
    · rw [if_neg hv, hemit b second hb]
      show Except.ok [second] = Except.ok [if v.isTruthy then first else second]
      rw [if_neg hv]

namespace Renderer

variable {r : Renderer} {ctx : Context}

/-- The statements of a template with one condition make the program of this choice. -/
theorem exists_program_conditional {condition first second : Text} {s : Substitution} {e : Expr}
    (hfirst : '{' ∉ first) (hsecond : '{' ∉ second) (hne : condition ≠ []) (htrim : condition.trim = condition)
    (hs : Substitution.ofLine ctx condition = .ok s) (he : Expr.parse s.text = .ok e) :
    ∃ program, Statement.ofLines r.options.bufferName (Text.conditional condition first second) >>=
        r.program ctx = .ok program ∧
      program.evaluate ctx r.options.bufferName =
        (e.eval (Scope.fresh ctx r.options.bufferName)).map fun v =>
          [if v.isTruthy then first else second] := by
  have hif := Keyword.readControl_line .ifBlock rfl hne htrim
  have helse := Keyword.readControl_line_none .elseBranch rfl
  have hend := Keyword.readControl_line_none .endBlock rfl
  have hreadable : ∀ line ∈ Text.conditional condition first second, ∃ statement, Reads line statement := by
    simp only [Text.conditional, List.forall_mem_cons]
    exact ⟨Statement.exists_reads_of_control (Keyword.tagged_line _ _) hif,
      Statement.exists_reads_of_literal (not_tagged_of_not_mem hfirst),
      Statement.exists_reads_of_control (Keyword.tagged_line _ _) helse,
      Statement.exists_reads_of_literal (not_tagged_of_not_mem hsecond),
      Statement.exists_reads_of_control (Keyword.tagged_line _ _) hend, List.forall_mem_nil _⟩
  obtain ⟨statements, hstatements, hreads⟩ :=
    Statement.exists_ofLines_of_reads hreadable
  obtain _ | ⟨h₁, _ | ⟨h₂, _ | ⟨h₃, _ | ⟨h₄, _ | ⟨h₅, _ | _⟩⟩⟩⟩⟩ := hreads
  obtain ⟨c₁, rfl, hkeyword₁, hcondition₁⟩ := h₁.of_control (Keyword.tagged_line _ _) hif
  obtain ⟨l₁, rfl, rfl⟩ := h₂.of_literal (not_tagged_of_not_mem hfirst)
  obtain ⟨c₂, rfl, hkeyword₂, hcondition₂⟩ := h₃.of_control (Keyword.tagged_line _ _) helse
  obtain ⟨l₂, rfl, rfl⟩ := h₄.of_literal (not_tagged_of_not_mem hsecond)
  obtain ⟨c₃, rfl, hkeyword₃, hcondition₃⟩ := h₅.of_control (Keyword.tagged_line _ _) hend
  obtain ⟨a, hofFirst, hsingle, ha⟩ := exists_ofLine_of_not_mem hfirst ctx
  obtain ⟨b, hofSecond, hsingle', hb⟩ := exists_ofLine_of_not_mem hsecond ctx
  have hsteps : r.steps ctx [.control c₁, .literal l₁, .control c₂, .literal l₂, .control c₃] =
      .ok [.control { c₁ with condition := some s.text }, .emit a.segments, .control c₂, .emit b.segments,
        .control c₃] :=
    mapM_eq_ok_iff.2 (.cons (Statement.toStep_of_condition hcondition₁ hs)
      (.cons (Statement.toStep_of_single hofFirst hsingle)
        (.cons (Statement.toStep_of_no_condition hcondition₂)
          (.cons (Statement.toStep_of_single hofSecond hsingle')
            (.cons (Statement.toStep_of_no_condition hcondition₃) .nil)))))
  have htests : Control.Tests { c₁ with condition := some s.text } .ifBlock e := ⟨hkeyword₁, he⟩
  have hlinear : LinearBody [.choice (.test e [.emit a.segments] (.otherwise [.emit b.segments]))]
      [.control { c₁ with condition := some s.text }, .emit a.segments, .control c₂, .emit b.segments,
        .control c₃] :=
    .cons (.choice htests (.cons (.emit _) .nil)
      (.otherwise hkeyword₂ (.cons (.emit _) .nil) hkeyword₃)) .nil
  refine ⟨⟨_⟩, ?_, Program.evaluate_choice (fun env => ha _ fun _ => rfl) fun env => hb _ fun _ => rfl⟩
  rw [hstatements, ok_bind, program, hsteps, ok_bind]
  exact mapError_eq_ok.2 (Program.assemble_eq_ok_iff.2 hlinear)

/-- The whole rendering of a template with one condition. -/
theorem run_conditional (r : Renderer) (s : RenderState) {condition first second : Text} {sub : Substitution}
    {e : Expr}
    (hcache : s.cache.Distinguishes
      ⟨Text.ofLines (Text.conditional condition first second), r.options.bufferName⟩)
    (hbraced : Text.Braced condition) (hcondition : '\n' ∉ condition)
    (hne : condition ≠ []) (htrim : condition.trim = condition)
    (hfirst : '{' ∉ first ∧ '\n' ∉ first) (hsecond : '{' ∉ second ∧ '\n' ∉ second)
    (hs : Substitution.ofLine (s.context.refresh s.clock.now) condition = .ok sub)
    (he : Expr.parse sub.text = .ok e) :
    ((r.renderString (String.ofList (Text.ofLines (Text.conditional condition first second)))).run s).1 =
      ((e.eval (Scope.fresh (s.context.refresh s.clock.now) r.options.bufferName)).mapError .evaluation >>=
        fun v => r.finish (String.ofList (if v.isTruthy then first else second))) := by
  have hdirective : ∀ line ∈ Text.conditional condition first second, ¬ SourcePart.opening <:+: line := by
    simp only [Text.conditional, List.forall_mem_cons]
    exact ⟨Keyword.opening_not_infix_line _ hbraced, opening_not_infix_of_not_mem hfirst.1,
      Keyword.opening_not_infix_line _ .nil, opening_not_infix_of_not_mem hsecond.1,
      Keyword.opening_not_infix_line _ .nil, List.forall_mem_nil _⟩
  have hnewline : ∀ line ∈ Text.conditional condition first second, '\n' ∉ line := by
    simp only [Text.conditional, List.forall_mem_cons]
    exact ⟨Keyword.newline_not_mem_line _ hcondition, hfirst.2, Keyword.newline_not_mem_line _ (by simp),
      hsecond.2, Keyword.newline_not_mem_line _ (by simp), List.forall_mem_nil _⟩
  obtain ⟨program, hprogram, hevaluate⟩ :=
    exists_program_conditional (r := r) hfirst.1 hsecond.1 hne htrim hs he
  rw [run_lines hcache (List.cons_ne_nil _ _) hnewline hdirective hprogram, written, hevaluate]
  cases e.eval (Scope.fresh (s.context.refresh s.clock.now) r.options.bufferName) with
  | error fault => rfl
  | ok v =>
    show r.finish (String.ofList (Text.ofLines [_])) = r.finish _
    simp [Text.ofLines]

end Renderer

/-! ## Values in conditions -/

/-- The name of a placeholder is an identifier. -/
theorem Placeholder.IsName.isIdentifier {t : Text} (h : IsName t) : Symbol.IsIdentifier t := by
  refine ⟨h.nonempty, fun c hc => ?_, fun c hc => ?_⟩
  · exact Symbol.startsName_of_small (h.letters c (List.mem_of_mem_head? hc))
  · exact Symbol.continuesName_of_startsName
      (Symbol.startsName_of_small (h.letters c (List.mem_of_mem_tail hc)))

/-- A comparison with an expression in parentheses. -/
def Text.compared (left right : Text) : Text := left ++ ([' ', '=', '=', ' ', '('] ++ (right ++ [')']))

theorem Text.compared_ne_nil (left right : Text) : compared left right ≠ [] := by
  simp [compared]

theorem Text.trim_compared {left : Text} (hleft : left ≠ []) (hblank : ∀ c ∈ left.head?, isBlank c = false)
    (right : Text) : (compared left right).trim = compared left right := by
  have hwhole : compared left right = (left ++ [' ', '=', '=', ' ', '('] ++ right) ++ [')'] := by
    simp [compared]
  refine trim_eq_self (fun c hc => ?_) fun c hc => ?_
  · rw [compared, List.head?_append_of_ne_nil _ hleft] at hc
    exact hblank c hc
  · rw [hwhole, List.getLast?_concat] at hc
    cases hc
    decide

namespace Expr

open PageTemplate.Symbol (Word read)

/-- Words that are read as a single operand, compared with an expression, are the comparison. -/
theorem parse_compared {e right : Expr} {s : List Symbol} {t w : Text} (hs : Single e s)
    (ht : read t = .ok s) (hw : parse w = .ok right) :
    parse (Text.compared t w) = .ok (.compare e (.relation .eq) right) := by
  obtain ⟨symbols, hsymbols, hright⟩ := bind_eq_ok.1 hw
  have hclose : read (w ++ [')']) = .ok (symbols ++ [.closeParen]) := by
    rw [Symbol.read_append hsymbols (by decide +kernel), Word.closeParen.read]
    rfl
  have hsign : read ([' '] ++ (Relation.eq.sign.toList ++ ([' '] ++ (['('] ++ (w ++ [')']))))) =
      .ok (.relation .eq :: .openParen :: (symbols ++ [.closeParen])) := by
    rw [Symbol.Blanks.read_append _ (by decide), (Word.relation .eq).read_append trivial,
      Symbol.Blanks.read_append _ (by decide), Word.openParen.read_append trivial, hclose]
    rfl
  have hphrase : Derives .disjunction (.compare e (.relation .eq) right)
      (s ++ ([.relation .eq] ++ (.openParen :: (symbols ++ [.closeParen])))) :=
    .conjunction (.negation (.comparison (.compare (.relation .eq) (.atom hs.derives)
      (.atom (.parentheses (ofSymbols_eq_ok_iff.1 hright))))))
  rw [parse, Text.compared, Symbol.read_append ht (by rintro c ⟨⟩; decide +kernel)]
  show (_ <$> read ([' '] ++ (Relation.eq.sign.toList ++ ([' '] ++ (['('] ++ (w ++ [')']))))) >>= _) = _
  rw [hsign]
  exact ofSymbols_eq_ok_iff.2 hphrase

/-- An integer below zero is written behind a minus sign, by the digits of its negative. -/
theorem text_int_of_neg {i : Int64} (h : i < 0) (hmin : i ≠ Int64.minValue) :
    (Value.int i).text = ['-'] ++ (Value.int (-i)).text := by
  have hlt := Int64.lt_iff_toInt_lt.1 h
  rw [Int64.toInt_zero] at hlt
  obtain ⟨k, hk⟩ := Int.eq_negSucc_of_lt_zero hlt
  have hneg : (-i).toInt = ((k + 1 : Nat) : Int) := by
    rw [toInt_neg_of_ne_minValue hmin, hk]
    rfl
  rw [Value.text, Value.text, hk, hneg]
  show ("-" ++ toString (k + 1)).toList = ['-'] ++ (toString (k + 1)).toList
  rw [String.toList_append]
  rfl

/-- The text of a boolean, or of an integer whose negative is one too, is read as a literal of it. -/
theorem exists_single_of_text {v : Value}
    (h : (∃ b, v = .bool b) ∨ ∃ i, v = .int i ∧ i ≠ Int64.minValue) :
    ∃ symbols, Single (.literal v) symbols ∧ read v.text = .ok symbols := by
  rcases h with ⟨b, rfl⟩ | ⟨i, rfl, hmin⟩
  · cases b with
    | false => exact ⟨_, .word (n := "false") (by simp [literalWords]), (word_of_mem "false" (by simp)).read⟩
    | true => exact ⟨_, .word (n := "true") (by simp [literalWords]), (word_of_mem "true" (by simp)).read⟩
  · by_cases hi : 0 ≤ i
    · exact ⟨_, .int hi, (Word.int hi).read⟩
    · have hneg : i < 0 := Int64.not_le.1 hi
      have hdigits := (Word.int (neg_nonneg_of_ne_minValue hneg hmin)).read
      refine ⟨_, .negative hneg, ?_⟩
      rw [text_int_of_neg hneg hmin, Word.minus.read_append trivial, hdigits]
      rfl

theorem parse_zero : parse ['0'] = .ok (.literal (.int 0)) := by
  have hread := (Word.int (i := 0) (by decide)).read
  rw [show (Value.int 0).text = ['0'] by decide +kernel] at hread
  rw [parse, hread]
  rfl

/-- What two operands have in common is the value that they are compared by. -/
theorem eval_compare_congr {env : String → Option Value} {left left' : Expr} (h : left.eval env = left'.eval env)
    (c : Comparison) (right : Expr) : (compare left c right).eval env = (compare left' c right).eval env := by
  rw [eval, eval, h]

end Expr

namespace Renderer

/-- A boolean or an integer that a placeholder puts into a condition is compared as if its name stood there.
The integer must not be the least one: its digits are read before the sign in front of them is looked at. -/
theorem renderString_condition_keeps_value (r : Renderer) (s : RenderState) (name : String) (v : Value)
    (right first second : Text) (e : Expr)
    (hcache : s.cache.Distinguishes ⟨Text.ofLines
      (Text.conditional (Text.compared (Placeholder.plain name).raw right) first second), r.options.bufferName⟩)
    (hcache' : s.cache.Distinguishes ⟨Text.ofLines
      (Text.conditional (Text.compared name.toList right) first second), r.options.bufferName⟩)
    (hname : Placeholder.IsName name.toList) (hword : Expr.IsName name)
    (hliteral : ∀ u, (name, u) ∉ Expr.literalWords) (hbuffer : name ≠ r.options.bufferName)
    (htime : name ∉ Context.timeNames) (hv : s.context.get? name = some v)
    (hkind : (∃ b, v = .bool b) ∨ ∃ i, v = .int i ∧ i ≠ Int64.minValue)
    (hright : '{' ∉ right ∧ '\n' ∉ right) (he : Expr.parse right = .ok e)
    (hfirst : '{' ∉ first ∧ '\n' ∉ first) (hsecond : '{' ∉ second ∧ '\n' ∉ second) :
    ((r.renderString (String.ofList (Text.ofLines
      (Text.conditional (Text.compared (Placeholder.plain name).raw right) first second)))).run s).1 =
    ((r.renderString (String.ofList (Text.ofLines
      (Text.conditional (Text.compared name.toList right) first second)))).run s).1 := by
  have hnow : (s.context.refresh s.clock.now).get? name = some v := (Context.get?_refresh htime).trans hv
  have hwritten := Placeholder.written_plain hname
  have hresolves : (Placeholder.plain name).Resolves (s.context.refresh s.clock.now) v.text :=
    ⟨v, [], hnow, rfl, rfl⟩
  have hbehind : '{' ∉ [' ', '=', '=', ' ', '('] ++ (right ++ [')']) :=
    List.not_mem_append (by decide) (List.not_mem_append hright.1 (by decide))
  have hletters := hname.isIdentifier.not_mem
  have hnewline : ∀ {left : Text}, '\n' ∉ left → '\n' ∉ Text.compared left right := fun hleft =>
    List.not_mem_append hleft (List.not_mem_append (by decide) (List.not_mem_append hright.2 (by decide)))
  -- with the placeholder, the literal of the value is compared
  obtain ⟨symbols, hsingle, hread⟩ := Expr.exists_single_of_text hkind
  obtain ⟨sub, hsub, htext⟩ := exists_ofLine_of_placeholder hwritten hresolves (List.not_mem_nil) hbehind
  have hparse : Expr.parse sub.text = .ok (.compare (.literal v) (.relation .eq) e) := by
    rw [htext]
    exact Expr.parse_compared hsingle hread he
  rw [run_conditional r s hcache (.placeholder hwritten (.of_not_mem hbehind))
    (hnewline hwritten.newline_not_mem) (Text.compared_ne_nil _ _)
    (Text.trim_compared (List.cons_ne_nil _ _) (by rintro c ⟨⟩; decide) right) hfirst hsecond hsub hparse]
  -- without it, the name is
  have hfront : ∀ c ∈ name.toList.head?, Text.isBlank c = false := fun c hc =>
    hname.isIdentifier.not_isBlank c (List.mem_of_mem_head? hc)
  have hplain : '{' ∉ Text.compared name.toList right := List.not_mem_append hletters.1 hbehind
  obtain ⟨sub', hsub', -, hself⟩ := exists_ofLine_of_not_mem hplain (s.context.refresh s.clock.now)
  have hparse' : Expr.parse sub'.text = .ok (.compare (.name name) (.relation .eq) e) := by
    rw [Substitution.text, hself Segment.shown fun _ => rfl]
    exact Expr.parse_compared (.name hword hliteral) (Symbol.Word.name hname.isIdentifier).read he
  rw [run_conditional r s hcache' (.of_not_mem hplain) (hnewline hletters.2)
    (Text.compared_ne_nil _ _) (Text.trim_compared hname.nonempty hfront right) hfirst hsecond hsub' hparse']
  have hvalue : (Expr.literal v).eval (Scope.fresh (s.context.refresh s.clock.now) r.options.bufferName) =
      (Expr.name name).eval (Scope.fresh (s.context.refresh s.clock.now) r.options.bufferName) := by
    rw [Expr.eval, Expr.eval, Scope.fresh_of_ne hbuffer, hnow]
    rfl
  rw [Expr.eval_compare_congr hvalue]

/-- An integer below zero, compared with another one. -/
theorem renderString_condition_keeps_value_of_negative :
    let r : Renderer := { options := {}, source := fun name => .error (.templateNotFound name) }
    let s : RenderState :=
      { context := ⟨[("n", .int (-5))]⟩, clock := ⟨fun _ => ⟨0, "", ""⟩, 0⟩, cache := [], programs := [] }
    let page := fun left => ((r.renderString (String.ofList (Text.ofLines
      (Text.conditional (Text.compared left ['0']) ['a'] ['b'])))).run s).1
    page (Placeholder.plain "n").raw = page ['n'] ∧ (page ['n']).toOption = some "b" := by
  intro r s page
  have hname : Placeholder.IsName "n".toList := by decide +kernel
  have hsame := renderString_condition_keeps_value r s "n" (.int (-5)) ['0'] ['a'] ['b'] _
    ⟨[], rfl, by decide +kernel⟩ ⟨[], rfl, by decide +kernel⟩ hname (by decide) (by simp [Expr.literalWords])
    (by decide) (by decide) rfl (.inr ⟨-5, rfl, by decide⟩) (by decide) Expr.parse_zero (by decide) (by decide)
  exact ⟨hsame, by decide +kernel⟩

/-- The least integer is put into a condition as digits that are no integer. -/
theorem renderString_condition_refuses_least_integer :
    ¬ ∀ (r : Renderer) (s : RenderState) (name : String) (v : Value) (right first second : Text) (e : Expr),
      s.cache.Distinguishes ⟨Text.ofLines
        (Text.conditional (Text.compared (Placeholder.plain name).raw right) first second), r.options.bufferName⟩ →
      s.cache.Distinguishes ⟨Text.ofLines
        (Text.conditional (Text.compared name.toList right) first second), r.options.bufferName⟩ →
      Placeholder.IsName name.toList → Expr.IsName name → (∀ u, (name, u) ∉ Expr.literalWords) →
      name ≠ r.options.bufferName → name ∉ Context.timeNames → s.context.get? name = some v →
      ((∃ b, v = .bool b) ∨ ∃ i, v = .int i) → '{' ∉ right ∧ '\n' ∉ right → Expr.parse right = .ok e →
      '{' ∉ first ∧ '\n' ∉ first → '{' ∉ second ∧ '\n' ∉ second →
      ((r.renderString (String.ofList (Text.ofLines
        (Text.conditional (Text.compared (Placeholder.plain name).raw right) first second)))).run s).1 =
      ((r.renderString (String.ofList (Text.ofLines
        (Text.conditional (Text.compared name.toList right) first second)))).run s).1 := by
  intro h
  let r : Renderer := { options := {}, source := fun name => .error (.templateNotFound name) }
  let s : RenderState :=
    { context := ⟨[("x", .int Int64.minValue)]⟩, clock := ⟨fun _ => ⟨0, "", ""⟩, 0⟩, cache := [], programs := [] }
  have hsame := h r s "x" (.int Int64.minValue) ['0'] ['a'] ['b'] _
    ⟨[], rfl, by decide +kernel⟩ ⟨[], rfl, by decide +kernel⟩ (by decide +kernel) (by decide)
    (by simp [Expr.literalWords]) (by decide) (by decide) rfl (.inr ⟨_, rfl⟩) (by decide) Expr.parse_zero (by decide)
    (by decide)
  have hpages : ((r.renderString (String.ofList (Text.ofLines
        (Text.conditional (Text.compared (Placeholder.plain "x").raw ['0']) ['a'] ['b'])))).run s).1.toOption ≠
      ((r.renderString (String.ofList (Text.ofLines
        (Text.conditional (Text.compared "x".toList ['0']) ['a'] ['b'])))).run s).1.toOption := by
    decide +kernel
  exact hpages (congrArg Except.toOption hsame)

end Renderer

/-! ## Quoted texts in conditions -/

/-- What stands between two quoted texts that are compared. -/
def Text.quotesBetween : Text := ['"', ' ', '=', '=', ' ', '"']

/-- Two texts in quotes, compared. -/
def Text.comparedQuotes (left right : Text) : Text := ['"'] ++ (left ++ (quotesBetween ++ (right ++ ['"'])))

theorem Text.trim_comparedQuotes (left right : Text) :
    (comparedQuotes left right).trim = comparedQuotes left right := by
  have hwhole : comparedQuotes left right = (['"'] ++ left ++ quotesBetween ++ right) ++ ['"'] := by
    simp [comparedQuotes]
  refine trim_eq_self (fun c hc => ?_) fun c hc => ?_
  · cases hc
    decide
  · rw [hwhole, List.getLast?_concat] at hc
    cases hc
    decide

namespace Expr

open PageTemplate.Symbol (Spelled Word)

/-- Texts without a double quote are read from between the quotes as they are, whatever is in them. -/
theorem parse_comparedQuotes {left right : Text} (hleft : '"' ∉ left) (hright : '"' ∉ right) :
    parse (Text.comparedQuotes left right) = .ok (.compare (.literal (.str (String.ofList left))) (.relation .eq)
      (.literal (.str (String.ofList right)))) := by
  have hword {t : Text} (ht : '"' ∉ t) : Word (.str (String.ofList t)) ('"' :: (t ++ ['"'])) := by
    have hquoted := Word.str (t := String.ofList t) (.inr rfl) (by rwa [String.toList_ofList])
    rwa [String.toList_ofList] at hquoted
  have hnone : Symbol.Blanks [] := by decide
  have hspace : Symbol.Blanks [' '] := by decide
  have hspelled : Spelled [.str (String.ofList left), .relation .eq, .str (String.ofList right)]
      (Text.comparedQuotes left right) := by
    have hwords := Spelled.cons hnone (hword hleft) trivial
      (.cons hspace (.relation .eq) trivial (.cons hspace (hword hright) trivial (.nil hnone)))
    simpa [Text.comparedQuotes, Text.quotesBetween, Relation.sign] using hwords
  have hphrase : Derives .disjunction (.compare (.literal (.str (String.ofList left))) (.relation .eq)
      (.literal (.str (String.ofList right))))
      ([.str (String.ofList left)] ++ ([.relation .eq] ++ [.str (String.ofList right)])) :=
    (Printed.compare (.relation .eq) (.single (.str _)) (.single (.str _))).derives
  rw [parse, hspelled.read]
  exact ofSymbols_eq_ok_iff.2 hphrase

theorem eval_comparedStrings (env : String → Option Value) (left right : String) :
    (compare (.literal (.str left)) (.relation .eq) (.literal (.str right))).eval env =
      .ok (.bool (left == right)) := rfl

end Expr

namespace Renderer

/-- The text of a placeholder in quotes is compared as it is, be there spaces at its ends, line breaks, marks of
tags or placeholders in it: the page is the first line just where it is the text that it is compared with. -/
theorem renderString_compares_quoted_text (r : Renderer) (s : RenderState) (p : Placeholder)
    (v right first second : Text)
    (hcache : s.cache.Distinguishes ⟨Text.ofLines
      (Text.conditional (Text.comparedQuotes p.raw right) first second), r.options.bufferName⟩)
    (hformat : r.options.formatOutput = false) (hp : p.Written)
    (hv : p.Resolves (s.context.refresh s.clock.now) v) (hquote : '"' ∉ v)
    (hright : '"' ∉ right ∧ '{' ∉ right ∧ '\n' ∉ right)
    (hfirst : '{' ∉ first ∧ '\n' ∉ first) (hsecond : '{' ∉ second ∧ '\n' ∉ second) :
    ((r.renderString (String.ofList (Text.ofLines
      (Text.conditional (Text.comparedQuotes p.raw right) first second)))).run s).1 =
      .ok (String.ofList (if v = right then first else second)) := by
  obtain ⟨hquoteRight, hbrace, hbreak⟩ := hright
  have hbehind : '{' ∉ Text.quotesBetween ++ (right ++ ['"']) :=
    List.not_mem_append (by decide) (List.not_mem_append hbrace (by decide))
  have hbraced : Text.Braced (Text.comparedQuotes p.raw right) :=
    .plain (by decide) (.placeholder hp (.of_not_mem hbehind))
  have hnewline : '\n' ∉ Text.comparedQuotes p.raw right :=
    List.not_mem_append (by decide) (List.not_mem_append hp.newline_not_mem
      (List.not_mem_append (by decide) (List.not_mem_append hbreak (by decide))))
  -- the text is put between the quotes once, and not searched again
  have hfront : '{' ∉ ['"'] := by decide
  obtain ⟨sub, hsub, htext⟩ := exists_ofLine_of_placeholder hp hv hfront hbehind
  have hparse : Expr.parse sub.text = .ok (.compare (.literal (.str (String.ofList v))) (.relation .eq)
      (.literal (.str (String.ofList right)))) := by
    rw [htext]
    exact Expr.parse_comparedQuotes hquote hquoteRight
  have hfinish : ∀ page, r.finish page = .ok page := fun page => by rw [finish, hformat]; rfl
  have hequal : (String.ofList v == String.ofList right) = decide (v = right) := by
    rw [Bool.eq_iff_iff, beq_iff_eq, decide_eq_true_iff, String.ofList_inj]
  rw [run_conditional r s hcache hbraced hnewline (List.cons_ne_nil _ _) (Text.trim_comparedQuotes _ _) hfirst
    hsecond hsub hparse, Expr.eval_comparedStrings, hequal]
  show r.finish (String.ofList (if decide (v = right) = true then first else second)) = _
  rw [hfinish]
  simp only [decide_eq_true_eq]

/-- A text with the closing mark of a tag and spaces at its ends, compared with itself, and one with a line break
and a tag in it, compared with a part of it. -/
theorem renderString_compares_quoted_text_of_marks :
    let r : Renderer := { options := {}, source := fun name => .error (.templateNotFound name) }
    let page := fun v right : Text =>
      let s : RenderState :=
        { context := ⟨[("x", .str (String.ofList v))]⟩, clock := ⟨fun _ => ⟨0, "", ""⟩, 0⟩, cache := [],
          programs := [] }
      ((r.renderString (String.ofList (Text.ofLines
        (Text.conditional (Text.comparedQuotes (Placeholder.plain "x").raw right) ['a'] ['b'])))).run s).1
    page " %\x7d ".toList " %\x7d ".toList = .ok "a" ∧
      page " a %\x7d\n\x7b% end %\x7d ".toList ['a'] = .ok "b" := by
  intro r page
  have hname : Placeholder.IsName "x".toList := by decide +kernel
  have hpage (v right : Text) (hresolves : (Value.str (String.ofList v)).through none [] = v) (hquote : '"' ∉ v)
      (hright : '"' ∉ right ∧ '{' ∉ right ∧ '\n' ∉ right) :
      page v right = .ok (String.ofList (if v = right then ['a'] else ['b'])) :=
    renderString_compares_quoted_text r _ (Placeholder.plain "x") v right ['a'] ['b'] (Cache.distinguishes_nil _) rfl
      (Placeholder.written_plain hname) ⟨.str (String.ofList v), [], rfl, rfl, hresolves⟩ hquote hright (by decide)
      (by decide)
  exact ⟨hpage _ _ (by decide +kernel) (by decide +kernel) (by decide +kernel),
    hpage _ _ (by decide +kernel) (by decide +kernel) (by decide +kernel)⟩

end Renderer

end PageTemplate
