/-
What all assembled programs have in common: lines that are written as one line each, choices with an arm,
loops with a target, and blocks with an instruction, inside each other only so deep.

Assembling adds nothing of its own: each instruction comes from the steps that it is written as. So a
program is as its steps are, line for line and block for block, and the header of a loop is as the grammar
has it.
-/
import PageTemplate.Proofs.Expr.Recognition
import PageTemplate.Proofs.Program.Assembled

namespace PageTemplate

mutual

/-- An instruction of which every part is as it has to be, with blocks at most `levels` deep. -/
inductive Node.WellFormed : (levels : Nat) → Node → Prop
  | emit {levels : Nat} {segments : List Segment} :
      (∀ segment ∈ segments, '\n' ∉ segment.source) → Node.WellFormed levels (.emit segments)
  | block {levels : Nat} {nodes : List Node} :
      nodes ≠ [] → (∀ node ∈ nodes, Node.WellFormed levels node) →
      Node.WellFormed (levels + 1) (.block nodes)
  | choice {levels : Nat} {e : Expr} {body : List Node} {rest : Arms} :
      (∀ node ∈ body, Node.WellFormed levels node) → Arms.WellFormed levels rest →
      Node.WellFormed levels (.choice (.test e body rest))
  | loop {levels : Nat} {header : LoopHeader} {body : List Node} :
      header.targets ≠ [] → (∀ node ∈ body, Node.WellFormed levels node) →
      Node.WellFormed levels (.loop header body)

/-- The same of the arms of a choice after the first one. -/
inductive Arms.WellFormed : (levels : Nat) → Arms → Prop
  | done {levels : Nat} : Arms.WellFormed levels .done
  | otherwise {levels : Nat} {body : List Node} :
      (∀ node ∈ body, Node.WellFormed levels node) → Arms.WellFormed levels (.otherwise body)
  | test {levels : Nat} {e : Expr} {body : List Node} {rest : Arms} :
      (∀ node ∈ body, Node.WellFormed levels node) → Arms.WellFormed levels rest →
      Arms.WellFormed levels (.test e body rest)

end

/-- The same of a step, by the instruction that it brings along. -/
def Step.WellFormed (levels : Nat) : Step → Prop
  | .emit segments => Node.WellFormed levels (.emit segments)
  | .block nodes => Node.WellFormed levels (.block nodes)
  | .control _ => True

/-- A loop has a target. -/
theorem Control.Loops.targets_ne_nil {c : Control} {header : LoopHeader} (h : c.Loops header) :
    header.targets ≠ [] := by
  obtain ⟨symbols, -, hheader⟩ := bind_eq_ok.1 h.2
  cases Expr.headerOfSymbols_eq_ok_iff.1 hheader with
  | intro => exact List.cons_ne_nil _ _

/-! ## Instructions and their steps -/

section

variable {levels : Nat}

mutual

theorem Node.Linear.wellFormed {node : Node} {steps : List Step} (h : node.Linear steps)
    (hsteps : ∀ step ∈ steps, step.WellFormed levels) : node.WellFormed levels := by
  cases h with
  | emit => exact hsteps _ List.mem_cons_self
  | block => exact hsteps _ List.mem_cons_self
  | choice _ hbody hrest =>
    obtain ⟨hfirst, hothers⟩ := List.forall_mem_append.1 (List.forall_mem_cons.1 hsteps).2
    exact .choice (hbody.wellFormed hfirst) (hrest.wellFormed hothers)
  | loop hheader hbody =>
    obtain ⟨hinside, -⟩ := List.forall_mem_append.1 (List.forall_mem_cons.1 hsteps).2
    exact .loop hheader.targets_ne_nil (hbody.wellFormed hinside)

theorem Arms.Linear.wellFormed {arms : Arms} {steps : List Step} (h : arms.Linear steps)
    (hsteps : ∀ step ∈ steps, step.WellFormed levels) : arms.WellFormed levels := by
  cases h with
  | done => exact .done
  | otherwise _ hbody =>
    obtain ⟨hinside, -⟩ := List.forall_mem_append.1 (List.forall_mem_cons.1 hsteps).2
    exact .otherwise (hbody.wellFormed hinside)
  | test _ hbody hrest =>
    obtain ⟨hfirst, hothers⟩ := List.forall_mem_append.1 (List.forall_mem_cons.1 hsteps).2
    exact .test (hbody.wellFormed hfirst) (hrest.wellFormed hothers)

theorem LinearBody.wellFormed {nodes : List Node} {steps : List Step} (h : LinearBody nodes steps)
    (hsteps : ∀ step ∈ steps, step.WellFormed levels) : ∀ node ∈ nodes, node.WellFormed levels := by
  cases h with
  | nil => exact List.forall_mem_nil _
  | cons hnode hnodes =>
    obtain ⟨hfirst, hothers⟩ := List.forall_mem_append.1 hsteps
    exact List.forall_mem_cons.2 ⟨hnode.wellFormed hfirst, hnodes.wellFormed hothers⟩

end

/-- Without instructions there are no steps. -/
theorem LinearBody.ne_nil {nodes : List Node} {steps : List Step} (h : LinearBody nodes steps)
    (hsteps : steps ≠ []) : nodes ≠ [] := by
  rintro rfl
  cases h
  exact hsteps rfl

/-- A program is as its steps are. -/
theorem Program.wellFormed_of_assemble {steps : List Step} {program : Program}
    (h : assemble steps = .ok program) (hsteps : ∀ step ∈ steps, step.WellFormed levels) :
    ∀ node ∈ program.nodes, node.WellFormed levels :=
  (assemble_eq_ok_iff.1 h).wellFormed hsteps

end

end PageTemplate
