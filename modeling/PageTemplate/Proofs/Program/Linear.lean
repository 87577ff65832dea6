/-
The linearisation of a program: the steps that its instructions are written as, one for each line
of output and each nested block, and for a choice or a loop the header, the body and an `end`.
Assembling accepts exactly these lists and gives back the one program that a list linearises; any
other list is refused at the first step that no linearisation has in this place, or at the end if
blocks are left open.

The invariant is the linearisation of an unfinished program: after any accepted steps, the open
blocks with their half-built arms, read from the outermost inwards, are written by just these steps.
-/
import PageTemplate.Program.Assembly
import PageTemplate.Proofs.Outcome
import Mathlib.Tactic.Common

namespace PageTemplate

/-! ## Headers -/

namespace Control

/-- The text of the condition; a missing condition is an empty text. -/
def text (c : Control) : Text := c.condition.getD []

/-- A control line that heads an arm with the condition `e`. -/
def Tests (c : Control) (keyword : Keyword) (e : Expr) : Prop :=
  c.keyword = keyword ∧ Expr.parse c.text = .ok e

/-- A control line that heads a loop. -/
def Loops (c : Control) (header : LoopHeader) : Prop :=
  c.keyword = .forLoop ∧ Expr.parseHeader c.text = .ok header

end Control

/-! ## Linearisations -/

mutual

/-- The steps of an instruction. -/
inductive Node.Linear : Node → List Step → Prop
  | emit (segments : List Segment) : Node.Linear (.emit segments) [.emit segments]
  | block (nodes : List Node) : Node.Linear (.block nodes) [.block nodes]
  | choice {c : Control} {e : Expr} {body : List Node} {rest : Arms} {s t : List Step} :
      c.Tests .ifBlock e → LinearBody body s → Arms.Linear rest t →
      Node.Linear (.choice (.test e body rest)) (.control c :: (s ++ t))
  | loop {c d : Control} {header : LoopHeader} {body : List Node} {s : List Step} :
      c.Loops header → LinearBody body s → d.keyword = .endBlock →
      Node.Linear (.loop header body) (.control c :: (s ++ [.control d]))

/-- The steps of the arms after the first one, with the `end` that closes them. -/
inductive Arms.Linear : Arms → List Step → Prop
  | done {d : Control} : d.keyword = .endBlock → Arms.Linear .done [.control d]
  | otherwise {c d : Control} {body : List Node} {s : List Step} :
      c.keyword = .elseBranch → LinearBody body s → d.keyword = .endBlock →
      Arms.Linear (.otherwise body) (.control c :: (s ++ [.control d]))
  | test {c : Control} {e : Expr} {body : List Node} {rest : Arms} {s t : List Step} :
      c.Tests .elifBranch e → LinearBody body s → Arms.Linear rest t →
      Arms.Linear (.test e body rest) (.control c :: (s ++ t))

/-- The steps of instructions one after the other. -/
inductive LinearBody : List Node → List Step → Prop
  | nil : LinearBody [] []
  | cons {node : Node} {nodes : List Node} {s t : List Step} :
      node.Linear s → LinearBody nodes t → LinearBody (node :: nodes) (s ++ t)

end

/-- The steps of an open block from its header to the header of the body that is being filled. -/
inductive Opening.Linear : Opening → List Step → Prop
  | ifBlock {c : Control} {e : Expr} : c.Tests .ifBlock e → Opening.Linear (.test [] e) [.control c]
  | elifBranch {finished : List (Expr × List Node)} {e e' : Expr} {body : List Node} {c : Control}
      {s t : List Step} :
      Opening.Linear (.test finished e) s → LinearBody body t → c.Tests .elifBranch e' →
      Opening.Linear (.test ((e, body) :: finished) e') (s ++ t ++ [.control c])
  | elseBranch {finished : List (Expr × List Node)} {e : Expr} {body : List Node} {c : Control}
      {s t : List Step} :
      Opening.Linear (.test finished e) s → LinearBody body t → c.keyword = .elseBranch →
      Opening.Linear (.otherwise ((e, body) :: finished)) (s ++ t ++ [.control c])
  | forLoop {c : Control} {header : LoopHeader} :
      c.Loops header → Opening.Linear (.loop header) [.control c]

/-- The steps of an unfinished program. -/
inductive Assembly.Linear : Assembly → List Step → Prop
  | top {top : List Node} {s : List Step} :
      LinearBody top.reverse s → Assembly.Linear ⟨[], top⟩ s
  | inside {frames : List Frame} {top : List Node} {opening : Opening} {body : List Node}
      {s t u : List Step} :
      Assembly.Linear ⟨frames, top⟩ s → opening.Linear t → LinearBody body.reverse u →
      Assembly.Linear ⟨⟨opening, body⟩ :: frames, top⟩ (s ++ t ++ u)

theorem LinearBody.append {as bs : List Node} {s t : List Step} (ha : LinearBody as s)
    (hb : LinearBody bs t) : LinearBody (as ++ bs) (s ++ t) := by
  induction as generalizing s with
  | nil => cases ha; exact hb
  | cons node as ih =>
    cases ha with
    | cons hn ha => rw [List.append_assoc]; exact .cons hn (ih ha)

theorem LinearBody.snoc {nodes : List Node} {node : Node} {s t : List Step}
    (h : LinearBody nodes s) (hn : node.Linear t) : LinearBody (nodes ++ [node]) (s ++ t) := by
  have := h.append (.cons hn .nil)
  rwa [List.append_nil] at this

/-! ## A linearisation assembles -/

namespace Assembly

/-- The innermost body grows by instructions. -/
def addAll (a : Assembly) (nodes : List Node) : Assembly := nodes.foldl (fun a node => a.add node) a

theorem addAll_inside (frame : Frame) (frames : List Frame) (top : List Node) :
    ∀ (nodes : List Node) (body : List Node),
      addAll ⟨{ frame with body := body } :: frames, top⟩ nodes =
        ⟨{ frame with body := nodes.reverse ++ body } :: frames, top⟩
  | [], body => rfl
  | node :: nodes, body => by
    rw [List.reverse_cons, List.append_assoc]
    exact addAll_inside frame frames top nodes (node :: body)

theorem addAll_top : ∀ (nodes top : List Node), addAll ⟨[], top⟩ nodes = ⟨[], nodes.reverse ++ top⟩
  | [], top => rfl
  | node :: nodes, top => by
    rw [List.reverse_cons, List.append_assoc]
    exact addAll_top nodes (node :: top)

/-- Assembling the steps of a body leaves the body of the innermost block longer, and all else as it
was. -/
theorem foldlM_body {opening : Opening} {frames : List Frame} {top nodes : List Node} {s : List Step}
    (h : ∀ a : Assembly, s.foldlM step a = .ok (a.addAll nodes)) :
    s.foldlM step ⟨⟨opening, []⟩ :: frames, top⟩ = .ok ⟨⟨opening, nodes.reverse⟩ :: frames, top⟩ := by
  rw [h]
  have := addAll_inside ⟨opening, []⟩ frames top nodes []
  rw [List.append_nil] at this
  exact congrArg _ this

theorem condition_eq_ok {text : Text} {e : Expr} : condition text = .ok e ↔ Expr.parse text = .ok e :=
  mapError_eq_ok

theorem header_eq_ok {text : Text} {h : LoopHeader} :
    header text = .ok h ↔ Expr.parseHeader text = .ok h :=
  mapError_eq_ok

theorem step_ifBlock {c : Control} {e : Expr} (h : c.Tests .ifBlock e) (a : Assembly) :
    a.step (.control c) = .ok { a with frames := ⟨.test [] e, []⟩ :: a.frames } := by
  have he : condition (c.condition.getD []) = .ok e := condition_eq_ok.2 h.2
  simp only [step, control, h.1, he]
  rfl

theorem step_forLoop {c : Control} {header : LoopHeader} (h : c.Loops header) (a : Assembly) :
    a.step (.control c) = .ok { a with frames := ⟨.loop header, []⟩ :: a.frames } := by
  have he : Assembly.header (c.condition.getD []) = .ok header := header_eq_ok.2 h.2
  simp only [step, control, h.1, he]
  rfl

theorem step_elifBranch {c : Control} {e e' : Expr} (h : c.Tests .elifBranch e')
    (finished : List (Expr × List Node)) (body : List Node) (frames : List Frame) (top : List Node) :
    step ⟨⟨.test finished e, body⟩ :: frames, top⟩ (.control c) =
      .ok ⟨⟨.test ((e, body.reverse) :: finished) e', []⟩ :: frames, top⟩ := by
  have he : condition (c.condition.getD []) = .ok e' := condition_eq_ok.2 h.2
  simp only [step, control, h.1, he]
  rfl

theorem step_elseBranch {c : Control} {e : Expr} (h : c.keyword = .elseBranch)
    (finished : List (Expr × List Node)) (body : List Node) (frames : List Frame) (top : List Node) :
    step ⟨⟨.test finished e, body⟩ :: frames, top⟩ (.control c) =
      .ok ⟨⟨.otherwise ((e, body.reverse) :: finished), []⟩ :: frames, top⟩ := by
  simp only [step, control, h]

theorem step_endBlock {d : Control} (h : d.keyword = .endBlock) (frame : Frame) (frames : List Frame)
    (top : List Node) :
    step ⟨frame :: frames, top⟩ (.control d) = .ok (add frame.close ⟨frames, top⟩) := by
  simp only [step, control, h]

end Assembly

mutual

theorem Node.Linear.foldlM {node : Node} {s : List Step} (h : node.Linear s) (a : Assembly) :
    s.foldlM Assembly.step a = .ok (a.add node) := by
  cases h with
  | emit | block => rfl
  | choice hc hbody hrest =>
    rw [List.foldlM_cons, Assembly.step_ifBlock hc, ok_bind, List.foldlM_append,
      Assembly.foldlM_body hbody.foldlM, ok_bind, hrest.foldlM, List.reverse_reverse]
    rfl
  | loop hc hbody hd =>
    rw [List.foldlM_cons, Assembly.step_forLoop hc, ok_bind, List.foldlM_append,
      Assembly.foldlM_body hbody.foldlM, ok_bind, List.foldlM_cons, Assembly.step_endBlock hd]
    simp [Frame.close]

/-- The arms after a filled one close its block; the arms finished before it come first. -/
theorem Arms.Linear.foldlM {arms : Arms} {s : List Step} (h : arms.Linear s)
    (finished : List (Expr × List Node)) (e : Expr) (body : List Node) (frames : List Frame)
    (top : List Node) :
    s.foldlM Assembly.step ⟨⟨.test finished e, body⟩ :: frames, top⟩ =
      .ok (Assembly.add (.choice (Arms.behind ((e, body.reverse) :: finished) arms)) ⟨frames, top⟩) := by
  cases h with
  | done hd =>
    rw [List.foldlM_cons, Assembly.step_endBlock hd]
    rfl
  | otherwise hc hbody hd =>
    rw [List.foldlM_cons, Assembly.step_elseBranch hc, ok_bind, List.foldlM_append,
      Assembly.foldlM_body hbody.foldlM, ok_bind, List.foldlM_cons, Assembly.step_endBlock hd]
    simp [Frame.close]
  | test hc hbody hrest =>
    rw [List.foldlM_cons, Assembly.step_elifBranch hc, ok_bind, List.foldlM_append,
      Assembly.foldlM_body hbody.foldlM, ok_bind, hrest.foldlM, List.reverse_reverse]
    rfl

theorem LinearBody.foldlM {nodes : List Node} {s : List Step} (h : LinearBody nodes s)
    (a : Assembly) : s.foldlM Assembly.step a = .ok (a.addAll nodes) := by
  cases h with
  | nil => rfl
  | cons hnode hnodes => rw [List.foldlM_append, hnode.foldlM, ok_bind, hnodes.foldlM]; rfl

end

end PageTemplate
