/-
What assembling accepts and refuses. Every step that an unfinished program takes extends its
linearisation, and every step that it refuses has no place after it in any linearisation; so a list
of steps assembles just when it is the linearisation of a program, and a list that does not is
refused at the first step without a place, or for its innermost block if only `end`s are missing.
-/
import PageTemplate.Proofs.Program.Linear

namespace PageTemplate

/-! ## One step -/

/-- Which body of a block is being filled: that of an arm with a condition, that of the `else`, or
that of a loop. -/
inductive Phase where
  | arm
  | rest
  | loop
  deriving DecidableEq

def Frame.phase : Frame → Phase
  | ⟨.test _ _, _⟩ => .arm
  | ⟨.otherwise _, _⟩ => .rest
  | ⟨.loop _, _⟩ => .loop

namespace Assembly

/-- The phase of the innermost open block. -/
def phase? (a : Assembly) : Option Phase := a.frames.head?.map Frame.phase

/-- What a control line makes of an unfinished program. -/
inductive Takes : Assembly → Control → Assembly → Prop
  | ifBlock {a : Assembly} {c : Control} {e : Expr} :
      c.Tests .ifBlock e → Takes a c { a with frames := ⟨.test [] e, []⟩ :: a.frames }
  | forLoop {a : Assembly} {c : Control} {header : LoopHeader} :
      c.Loops header → Takes a c { a with frames := ⟨.loop header, []⟩ :: a.frames }
  | elifBranch {c : Control} {finished : List (Expr × List Node)} {e e' : Expr} {body top : List Node}
      {frames : List Frame} :
      c.Tests .elifBranch e' →
      Takes ⟨⟨.test finished e, body⟩ :: frames, top⟩ c
        ⟨⟨.test ((e, body.reverse) :: finished) e', []⟩ :: frames, top⟩
  | elseBranch {c : Control} {finished : List (Expr × List Node)} {e : Expr} {body top : List Node}
      {frames : List Frame} :
      c.keyword = .elseBranch →
      Takes ⟨⟨.test finished e, body⟩ :: frames, top⟩ c
        ⟨⟨.otherwise ((e, body.reverse) :: finished), []⟩ :: frames, top⟩
  | endBlock {c : Control} {frame : Frame} {frames : List Frame} {top : List Node} :
      c.keyword = .endBlock → Takes ⟨frame :: frames, top⟩ c (add frame.close ⟨frames, top⟩)

/-- Why a control line has no place after an unfinished program. -/
inductive Refuses (a : Assembly) (c : Control) : EvaluationFault → Prop
  | condition {fault : SyntaxFault} :
      c.keyword = .ifBlock ∨ c.keyword = .elifBranch ∧ a.phase? = some .arm →
      Expr.parse c.text = .error fault →
      Refuses a c (.invalidExpression (String.ofList c.text) fault)
  | header {fault : SyntaxFault} :
      c.keyword = .forLoop → Expr.parseHeader c.text = .error fault →
      Refuses a c (.invalidExpression (String.ofList c.text) fault)
  | elifAfterElse : c.keyword = .elifBranch → a.phase? = some .rest → Refuses a c .elifAfterElse
  | elifOutsideIf :
      c.keyword = .elifBranch → a.phase? = some .loop ∨ a.phase? = none → Refuses a c .elifOutsideIf
  | secondElse : c.keyword = .elseBranch → a.phase? = some .rest → Refuses a c .secondElse
  | elseOutsideIf :
      c.keyword = .elseBranch → a.phase? = some .loop ∨ a.phase? = none → Refuses a c .elseOutsideIf
  | endOutsideBlock : c.keyword = .endBlock → a.phase? = none → Refuses a c .endOutsideBlock

theorem condition_eq_error {text : Text} {fault : SyntaxFault} (h : Expr.parse text = .error fault) :
    condition text = .error (.invalidExpression (String.ofList text) fault) :=
  mapError_eq_error.2 ⟨fault, h, rfl⟩

theorem header_eq_error {text : Text} {fault : SyntaxFault}
    (h : Expr.parseHeader text = .error fault) :
    header text = .error (.invalidExpression (String.ofList text) fault) :=
  mapError_eq_error.2 ⟨fault, h, rfl⟩

theorem Takes.step {a a' : Assembly} {c : Control} (h : a.Takes c a') :
    a.step (.control c) = .ok a' := by
  cases h with
  | ifBlock h => exact step_ifBlock h a
  | forLoop h => exact step_forLoop h a
  | elifBranch h => exact step_elifBranch h ..
  | elseBranch h => exact step_elseBranch h ..
  | endBlock h => exact step_endBlock h ..

theorem Refuses.step {a : Assembly} {c : Control} {fault : EvaluationFault} (h : a.Refuses c fault) :
    a.step (.control c) = .error fault := by
  obtain ⟨frames, top⟩ := a
  cases h with
  | condition hk hp =>
    have he : Assembly.condition (c.condition.getD []) = _ := condition_eq_error hp
    rcases hk with hk | ⟨hk, hphase⟩
    · simp only [Assembly.step, control, hk, he]; rfl
    · obtain _ | ⟨⟨_ | _ | _, _⟩, _⟩ := frames <;> cases hphase
      simp only [Assembly.step, control, hk, he]; rfl
  | header hk hp =>
    have he : Assembly.header (c.condition.getD []) = _ := header_eq_error hp
    simp only [Assembly.step, control, hk, he]; rfl
  | elifAfterElse hk hphase | secondElse hk hphase | endOutsideBlock hk hphase =>
    obtain _ | ⟨⟨_ | _ | _, _⟩, _⟩ := frames <;> cases hphase
    simp only [Assembly.step, control, hk]
  | elifOutsideIf hk hphase | elseOutsideIf hk hphase =>
    obtain _ | ⟨⟨_ | _ | _, _⟩, _⟩ := frames <;> rcases hphase with hphase | hphase <;> cases hphase
    all_goals simp only [Assembly.step, control, hk]

/-- A control line is taken or refused. -/
theorem takes_or_refuses (a : Assembly) (c : Control) :
    (∃ a', a.Takes c a') ∨ ∃ fault, a.Refuses c fault := by
  obtain ⟨frames, top⟩ := a
  cases hk : c.keyword with
  | ifBlock =>
    cases hp : Expr.parse c.text with
    | ok e => exact .inl ⟨_, .ifBlock ⟨hk, hp⟩⟩
    | error fault => exact .inr ⟨_, .condition (.inl hk) hp⟩
  | forLoop =>
    cases hp : Expr.parseHeader c.text with
    | ok header => exact .inl ⟨_, .forLoop ⟨hk, hp⟩⟩
    | error fault => exact .inr ⟨_, .header hk hp⟩
  | elifBranch =>
    obtain _ | ⟨⟨_ | _ | _, _⟩, frames⟩ := frames
    · exact .inr ⟨_, .elifOutsideIf hk (.inr rfl)⟩
    · cases hp : Expr.parse c.text with
      | ok e => exact .inl ⟨_, .elifBranch ⟨hk, hp⟩⟩
      | error fault => exact .inr ⟨_, .condition (.inr ⟨hk, rfl⟩) hp⟩
    · exact .inr ⟨_, .elifAfterElse hk rfl⟩
    · exact .inr ⟨_, .elifOutsideIf hk (.inl rfl)⟩
  | elseBranch =>
    obtain _ | ⟨⟨_ | _ | _, _⟩, frames⟩ := frames
    · exact .inr ⟨_, .elseOutsideIf hk (.inr rfl)⟩
    · exact .inl ⟨_, .elseBranch hk⟩
    · exact .inr ⟨_, .secondElse hk rfl⟩
    · exact .inr ⟨_, .elseOutsideIf hk (.inl rfl)⟩
  | endBlock =>
    cases frames with
    | nil => exact .inr ⟨_, .endOutsideBlock hk rfl⟩
    | cons frame frames => exact .inl ⟨_, .endBlock hk⟩

theorem takes_of_step {a a' : Assembly} {c : Control} (h : a.step (.control c) = .ok a') :
    a.Takes c a' := by
  rcases a.takes_or_refuses c with ⟨a'', ht⟩ | ⟨fault, hr⟩
  · rw [ht.step] at h; cases h; exact ht
  · rw [hr.step] at h; cases h

theorem refuses_of_step {a : Assembly} {c : Control} {fault : EvaluationFault}
    (h : a.step (.control c) = .error fault) : a.Refuses c fault := by
  rcases a.takes_or_refuses c with ⟨a', ht⟩ | ⟨fault', hr⟩
  · rw [ht.step] at h; cases h
  · rw [hr.step] at h; cases h; exact hr

end Assembly

/-! ## The linearisation of what has been taken -/

/-- A finished arm, followed by the rest of its choice, completes the choice. -/
theorem Opening.Linear.choice {finished : List (Expr × List Node)} {e : Expr} {s : List Step}
    (h : Opening.Linear (.test finished e) s) {body : List Node} {t : List Step}
    (hbody : LinearBody body t) {rest : Arms} {u : List Step} (hrest : rest.Linear u) :
    Node.Linear (.choice (Arms.behind ((e, body) :: finished) rest)) (s ++ t ++ u) := by
  induction finished generalizing e s body t rest u with
  | nil =>
    cases h with
    | ifBlock hc => exact .choice hc hbody hrest
  | cons arm finished ih =>
    cases h with
    | elifBranch hs hprev hc =>
      -- the arm that is finished now is one of the arms after those finished before
      have := ih hs hprev (.test hc hbody hrest)
      simpa [Arms.behind] using this

/-- An `end` completes the block that it closes. -/
theorem Opening.Linear.close {opening : Opening} {s : List Step} (h : opening.Linear s)
    {body : List Node} {t : List Step} (hbody : LinearBody body.reverse t) {d : Control}
    (hd : d.keyword = .endBlock) :
    Node.Linear (Frame.close ⟨opening, body⟩) (s ++ t ++ [.control d]) := by
  cases h with
  | ifBlock hc => exact (Opening.Linear.ifBlock hc).choice hbody (.done hd)
  | elifBranch hs hprev hc => exact (Opening.Linear.elifBranch hs hprev hc).choice hbody (.done hd)
  | elseBranch hs hprev hc =>
    have := hs.choice hprev (.otherwise hc hbody hd)
    simpa [Frame.close] using this
  | forLoop hc => exact .loop hc hbody hd

namespace Assembly

theorem Linear.add {a : Assembly} {s : List Step} (h : a.Linear s) {node : Node} {t : List Step}
    (hn : node.Linear t) : (a.add node).Linear (s ++ t) := by
  cases h with
  | top hs => exact .top (by rw [List.reverse_cons]; exact hs.snoc hn)
  | inside ha ho hbody =>
    rw [List.append_assoc]
    exact .inside ha ho (by rw [List.reverse_cons]; exact hbody.snoc hn)

theorem Linear.opened {a : Assembly} {s : List Step} (h : a.Linear s) {opening : Opening}
    {t : List Step} (ho : opening.Linear t) :
    Linear { a with frames := ⟨opening, []⟩ :: a.frames } (s ++ t) := by
  have hopened : Linear ⟨⟨opening, []⟩ :: a.frames, a.top⟩ (s ++ t ++ []) := .inside h ho .nil
  rwa [List.append_nil] at hopened

theorem Linear.takes {a a' : Assembly} {s : List Step} (h : a.Linear s) {c : Control}
    (hc : a.Takes c a') : a'.Linear (s ++ [.control c]) := by
  cases hc with
  | ifBlock hc => exact h.opened (.ifBlock hc)
  | forLoop hc => exact h.opened (.forLoop hc)
  | elifBranch hc =>
    cases h with
    | inside ha ho hbody => simpa using ha.opened (.elifBranch ho hbody hc)
  | elseBranch hc =>
    cases h with
    | inside ha ho hbody => simpa using ha.opened (.elseBranch ho hbody hc)
  | endBlock hc =>
    cases h with
    | inside ha ho hbody => simpa using ha.add (ho.close hbody hc)

/-- The step lemma: a step that is taken extends the linearisation. -/
theorem Linear.step {a a' : Assembly} {s : List Step} (h : a.Linear s) {x : Step}
    (hx : a.step x = .ok a') : a'.Linear (s ++ [x]) := by
  cases x with
  | emit segments => cases hx; exact h.add (.emit segments)
  | block nodes => cases hx; exact h.add (.block nodes)
  | control c => exact h.takes (takes_of_step hx)

theorem Linear.foldlM {a a' : Assembly} {s : List Step} (h : a.Linear s) {steps : List Step}
    (hsteps : steps.foldlM Assembly.step a = .ok a') : a'.Linear (s ++ steps) := by
  induction steps generalizing a s with
  | nil => cases hsteps; rwa [List.append_nil]
  | cons x steps ih =>
    rw [List.foldlM_cons, bind_eq_ok] at hsteps
    obtain ⟨b, hb, hsteps⟩ := hsteps
    have := ih (h.step hb) hsteps
    rwa [List.append_assoc] at this

theorem empty_linear : empty.Linear [] := .top .nil

end Assembly

theorem Opening.Linear.foldlM {opening : Opening} {s : List Step} (h : opening.Linear s)
    (a : Assembly) :
    s.foldlM Assembly.step a = .ok { a with frames := ⟨opening, []⟩ :: a.frames } := by
  induction h with
  | ifBlock hc => rw [List.foldlM_cons, Assembly.step_ifBlock hc]; rfl
  | elifBranch _ hbody hc ih =>
    rw [List.foldlM_append, List.foldlM_append, ih, ok_bind, Assembly.foldlM_body hbody.foldlM,
      ok_bind, List.foldlM_cons, Assembly.step_elifBranch hc, List.reverse_reverse]
    rfl
  | elseBranch _ hbody hc ih =>
    rw [List.foldlM_append, List.foldlM_append, ih, ok_bind, Assembly.foldlM_body hbody.foldlM,
      ok_bind, List.foldlM_cons, Assembly.step_elseBranch hc, List.reverse_reverse]
    rfl
  | forLoop hc => rw [List.foldlM_cons, Assembly.step_forLoop hc]; rfl

namespace Assembly

theorem foldlM_of_linear {a : Assembly} {s : List Step} (h : a.Linear s) :
    s.foldlM step empty = .ok a := by
  induction h with
  | @top top s hs =>
    have := addAll_top top.reverse []
    rw [List.append_nil, List.reverse_reverse] at this
    rw [hs.foldlM]
    exact congrArg _ this
  | inside _ ho hbody ih =>
    rw [List.foldlM_append, List.foldlM_append, ih, ok_bind, ho.foldlM, ok_bind,
      foldlM_body hbody.foldlM, List.reverse_reverse]

/-- The run lemma: the steps that lead to an unfinished program are its linearisations. -/
theorem foldlM_eq_ok_iff {a : Assembly} {s : List Step} :
    s.foldlM step empty = .ok a ↔ a.Linear s :=
  ⟨fun h => empty_linear.foldlM h, foldlM_of_linear⟩

/-- An unfinished program is finished by as many `end`s as it has open blocks. -/
theorem linear_append_ends {d : Control} (hd : d.keyword = .endBlock) :
    ∀ (n : Nat) {a : Assembly} {s : List Step}, a.frames.length = n → a.Linear s →
      ∃ nodes, LinearBody nodes (s ++ List.replicate n (.control d))
  | 0, _, _, hn, h => by
    cases h with
    | top hs => exact ⟨_, by rwa [List.replicate_zero, List.append_nil]⟩
    | inside => cases hn
  | n + 1, ⟨frame :: frames, top⟩, s, hn, h => by
    have hclosed : (add frame.close ⟨frames, top⟩).frames.length = n := by
      cases frames <;> exact Nat.succ.inj hn
    obtain ⟨nodes, hnodes⟩ := linear_append_ends hd n hclosed (h.takes (.endBlock hd))
    refine ⟨nodes, ?_⟩
    rw [List.append_assoc] at hnodes
    exact hnodes

end Assembly

/-! ## Whole lists of steps -/

/-- Steps that some linearisation begins with. -/
def Extendable (steps : List Step) : Prop := ∃ nodes more, LinearBody nodes (steps ++ more)

/-- `before` begins a linearisation, `step` has no place after it in any, and `fault` is the reason. -/
structure Misplaced (before : List Step) (step : Step) (fault : EvaluationFault) : Prop where
  extendable : Extendable before
  no_place : ¬ Extendable (before ++ [step])
  reason : ∃ a c, Assembly.Linear a before ∧ step = .control c ∧ a.Refuses c fault

def Step.IsEnd (step : Step) : Prop := ∃ d : Control, step = .control d ∧ d.keyword = .endBlock

/-- Only `end`s are missing after `steps`, and `frame` is the innermost block that is open. -/
structure EndsMissing (steps : List Step) (frame : Frame) : Prop where
  innermost : ∃ frames top, Assembly.Linear ⟨frame :: frames, top⟩ steps
  completion : ∃ nodes ends, ends ≠ [] ∧ (∀ step ∈ ends, step.IsEnd) ∧ LinearBody nodes (steps ++ ends)

/-- The conditions of the arms of an open choice, the one being filled included. -/
def Opening.arms : Opening → List Expr
  | .test finished e => e :: finished.map (·.1)
  | .otherwise finished => finished.map (·.1)
  | .loop _ => []

theorem Opening.Linear.arms_ne_nil {opening : Opening} {s : List Step} (h : opening.Linear s)
    (hloop : ∀ header, opening ≠ .loop header) : opening.arms ≠ [] := by
  cases h with
  | ifBlock | elifBranch | elseBranch => exact List.cons_ne_nil _ _
  | forLoop => exact absurd rfl (hloop _)

namespace Assembly

theorem Linear.extendable {a : Assembly} {s : List Step} (h : a.Linear s) : Extendable s := by
  obtain ⟨nodes, hnodes⟩ := linear_append_ends (d := ⟨.endBlock, none, 0, 0⟩) rfl _ rfl h
  exact ⟨nodes, _, hnodes⟩

/-- Steps that begin a linearisation are those of an unfinished program. -/
theorem exists_linear_of_extendable {s : List Step} (h : Extendable s) : ∃ a : Assembly, a.Linear s := by
  obtain ⟨nodes, more, h⟩ := h
  have hall := h.foldlM empty
  rw [List.foldlM_append, bind_eq_ok] at hall
  obtain ⟨a, ha, -⟩ := hall
  exact ⟨a, foldlM_eq_ok_iff.1 ha⟩

/-- In an unfinished program no open choice is without an arm. -/
theorem Linear.arms_ne_nil {a : Assembly} {s : List Step} (h : a.Linear s) :
    ∀ frame ∈ a.frames, frame.kind = .conditional → frame.opening.arms ≠ [] := by
  induction h with
  | top => intro frame hframe; cases hframe
  | inside _ ho _ ih =>
    intro frame hframe hkind
    rcases List.mem_cons.1 hframe with rfl | hframe
    · refine ho.arms_ne_nil fun header hheader => ?_
      subst hheader
      cases hkind
    · exact ih frame hframe hkind

theorem misplaced_of_step {a : Assembly} {before : List Step} {x : Step} {fault : EvaluationFault}
    (ha : before.foldlM step empty = .ok a) (hx : a.step x = .error fault) :
    Misplaced before x fault := by
  have hlinear := foldlM_eq_ok_iff.1 ha
  refine ⟨hlinear.extendable, fun hext => ?_, ?_⟩
  · obtain ⟨b, hb⟩ := exists_linear_of_extendable hext
    have := foldlM_eq_ok_iff.2 hb
    rw [List.foldlM_append, ha, ok_bind, List.foldlM_cons, hx] at this
    cases this
  · cases x with
    | emit | block => cases hx
    | control c => exact ⟨a, c, hlinear, rfl, refuses_of_step hx⟩

theorem endsMissing {frame : Frame} {frames : List Frame} {top : List Node} {steps : List Step}
    (h : Linear ⟨frame :: frames, top⟩ steps) : EndsMissing steps frame := by
  obtain ⟨nodes, hnodes⟩ := linear_append_ends (d := ⟨.endBlock, none, 0, 0⟩) rfl _ rfl h
  refine ⟨⟨frames, top, h⟩, nodes, _, List.cons_ne_nil _ _, fun x hx => ?_, hnodes⟩
  have hx : x ∈ List.replicate (frames.length + 1) _ := hx
  exact ⟨_, List.eq_of_mem_replicate hx, rfl⟩

end Assembly

namespace Program

theorem assemble_eq_ok_iff {steps : List Step} {p : Program} :
    assemble steps = .ok p ↔ LinearBody p.nodes steps := by
  unfold assemble
  rw [bind_eq_ok]
  constructor
  · rintro ⟨⟨frames, top⟩, ha, hp⟩
    cases Assembly.foldlM_eq_ok_iff.1 ha with
    | top hs => cases hp; exact hs
    | inside => cases hp
  · intro h
    refine ⟨⟨[], p.nodes.reverse⟩, Assembly.foldlM_eq_ok_iff.2 (.top ?_), ?_⟩
    · rwa [List.reverse_reverse]
    · simp [Assembly.finish]

theorem assemble_of_misplaced {before : List Step} {step : Step} {fault : EvaluationFault}
    (h : Misplaced before step fault) (after : List Step) :
    assemble (before ++ step :: after) = .error fault := by
  obtain ⟨a, c, ha, rfl, hr⟩ := h.reason
  unfold assemble
  rw [List.foldlM_append, Assembly.foldlM_of_linear ha, ok_bind, List.foldlM_cons, hr.step]
  rfl

theorem assemble_of_endsMissing {steps : List Step} {frame : Frame} (h : EndsMissing steps frame) :
    assemble steps = .error (.unclosedBlock frame.kind) := by
  obtain ⟨frames, top, ha⟩ := h.innermost
  unfold assemble
  rw [Assembly.foldlM_of_linear ha]
  rfl

theorem assemble_eq_error_iff {steps : List Step} {fault : EvaluationFault} :
    assemble steps = .error fault ↔
      (∃ before step after, steps = before ++ step :: after ∧ Misplaced before step fault) ∨
        ∃ frame, EndsMissing steps frame ∧ fault = .unclosedBlock frame.kind := by
  constructor
  · intro h
    unfold assemble at h
    rcases bind_eq_error.1 h with h | ⟨⟨frames, top⟩, ha, hf⟩
    · obtain ⟨before, step, after, a, rfl, ha, hstep⟩ := foldlM_eq_error h
      exact .inl ⟨before, step, after, rfl, Assembly.misplaced_of_step ha hstep⟩
    · cases frames with
      | nil => cases hf
      | cons frame frames =>
        cases hf
        exact .inr ⟨frame, Assembly.endsMissing (Assembly.foldlM_eq_ok_iff.1 ha), rfl⟩
  · rintro (⟨before, step, after, rfl, h⟩ | ⟨frame, h, rfl⟩)
    · exact assemble_of_misplaced h after
    · exact assemble_of_endsMissing h

/-- Assembling accepts exactly the linearisations, each of one program; every other list is refused
for the first step that has no place, whatever follows it, or for the innermost open block if only
`end`s are missing. While steps are taken, every open choice has an arm to fill. -/
theorem assemble_inverts_linearisation (steps : List Step) :
    (∀ p, assemble steps = .ok p ↔ LinearBody p.nodes steps) ∧
    (∀ p q : Program, LinearBody p.nodes steps → LinearBody q.nodes steps → p = q) ∧
    (∀ fault, assemble steps = .error fault ↔
      (∃ before step after, steps = before ++ step :: after ∧ Misplaced before step fault) ∨
        ∃ frame, EndsMissing steps frame ∧ fault = .unclosedBlock frame.kind) ∧
    (∀ step fault, Misplaced steps step fault → ∀ longer,
      assemble (steps ++ step :: longer) = .error fault) ∧
    (∀ a, steps.foldlM Assembly.step .empty = .ok a →
      ∀ frame ∈ a.frames, frame.kind = .conditional → frame.opening.arms ≠ []) := by
  refine ⟨fun p => assemble_eq_ok_iff, fun p q hp hq => ?_, fun fault => assemble_eq_error_iff,
    fun step fault h => assemble_of_misplaced h,
    fun a ha => (Assembly.foldlM_eq_ok_iff.1 ha).arms_ne_nil⟩
  have := (assemble_eq_ok_iff.2 hp).symm.trans (assemble_eq_ok_iff.2 hq)
  exact Except.ok.inj this

end Program

end PageTemplate
