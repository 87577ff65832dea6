/-
Branches as nested choices. An `elif` is short for an `else` with a choice of its own in it, that ends where the
block of the `elif` does: steps written the one way and the other assemble to programs that run alike.

Which `end` closes a block is said of the steps alone. Steps are enclosed if every block that begins in them ends
in them; so the end of a block is the first step behind enclosed ones that ends a block, and there is only one.
Every part of a linearisation is enclosed. The rewriting then goes down the linearisation of the program to the
arm of the `elif`, and there the rest of the arms becomes the body of an `else`.
-/
import PageTemplate.Proofs.Program.Outline
import PageTemplate.Proofs.Program.Reserved

namespace PageTemplate

/-! ## Blocks in a list of steps -/

/-- The step begins a block. -/
def Step.Opens (x : Step) : Prop := x.keyword? = some .ifBlock ∨ x.keyword? = some .forLoop

/-- The step ends a block. -/
def Step.Closes (x : Step) : Prop := x.keyword? = some .endBlock

/-- Steps in which every block that begins ends, and no other block does. -/
inductive Enclosed : List Step → Prop
  | nil : Enclosed []
  | plain {x : Step} {rest : List Step} :
      ¬ x.Opens → ¬ x.Closes → Enclosed rest → Enclosed (x :: rest)
  | block {x y : Step} {inner rest : List Step} :
      x.Opens → Enclosed inner → y.Closes → Enclosed rest → Enclosed (x :: (inner ++ y :: rest))

theorem Step.Opens.not_closes {x : Step} (h : x.Opens) : ¬ x.Closes := by
  rcases h with h | h <;> simp [Closes, h]

theorem Step.closes_control {c : Control} (h : c.keyword = .endBlock) : (Step.control c).Closes := congrArg some h

/-- A control line that divides a block neither begins nor ends one. -/
theorem Enclosed.branch {c : Control} (h : c.keyword = .elifBranch ∨ c.keyword = .elseBranch) :
    Enclosed [.control c] := by
  refine .plain ?_ ?_ .nil <;> rcases h with h | h <;> simp [Step.Opens, Step.Closes, Step.keyword?, h]

namespace Enclosed

theorem append {s t : List Step} (hs : Enclosed s) (ht : Enclosed t) : Enclosed (s ++ t) := by
  induction hs with
  | nil => exact ht
  | plain hopens hcloses _ ih => exact .plain hopens hcloses ih
  | block hopens hinner hcloses _ _ ih =>
    rw [List.cons_append, List.append_assoc]
    exact .block hopens hinner hcloses ih

theorem not_closes_head {s : List Step} (h : Enclosed s) : ∀ x ∈ s.head?, ¬ x.Closes := by
  cases h with
  | nil => exact fun x hx => nomatch hx
  | plain _ hcloses _ => rintro x ⟨⟩; exact hcloses
  | block hopens => rintro x ⟨⟩; exact hopens.not_closes

/-- The step that ends the block which enclosed steps stand in is the only one that does. -/
theorem unique {s s' : List Step} (h : Enclosed s) (h' : Enclosed s') {x x' : Step} {after after' : List Step}
    (hx : x.Closes) (hx' : x'.Closes) (heq : s ++ x :: after = s' ++ x' :: after') : s = s' := by
  induction h generalizing s' x x' after after' with
  | nil =>
    cases s' with
    | nil => rfl
    | cons y s' =>
      obtain ⟨rfl, -⟩ := List.cons.inj heq
      exact absurd hx (h'.not_closes_head _ rfl)
  | @plain y rest hopens hcloses _ ih =>
    cases h' with
    | nil =>
      obtain ⟨rfl, -⟩ := List.cons.inj heq
      exact absurd hx' hcloses
    | plain _ _ hrest' =>
      obtain ⟨rfl, hbehind⟩ := List.cons.inj heq
      rw [ih hrest' hx hx' hbehind]
    | block hopens' =>
      obtain ⟨rfl, -⟩ := List.cons.inj heq
      exact absurd hopens' hopens
  | @block y z inner rest hopens hinner hcloses _ ihinner ih =>
    cases h' with
    | nil =>
      obtain ⟨rfl, -⟩ := List.cons.inj heq
      exact absurd hx' hopens.not_closes
    | plain hopens' =>
      obtain ⟨rfl, -⟩ := List.cons.inj heq
      exact absurd hopens hopens'
    | block _ hinner' hcloses' hrest' =>
      rw [List.cons_append, List.cons_append, List.append_assoc, List.append_assoc] at heq
      obtain ⟨rfl, hbehind⟩ := List.cons.inj heq
      -- the inner block ends in the same place, and so does what follows it
      obtain rfl := ihinner hinner' hcloses hcloses' hbehind
      obtain ⟨rfl, hrest⟩ := List.cons.inj (List.append_cancel_left hbehind)
      rw [ih hrest' hx hx' hrest]

end Enclosed

/-- The block that `steps` stand in ends at `last`, behind `inner`. -/
structure EndsAt (steps inner : List Step) (last : Control) (after : List Step) : Prop where
  whole : steps = inner ++ .control last :: after
  enclosed : Enclosed inner
  closes : last.keyword = .endBlock

namespace EndsAt

variable {steps inner inner' after after' : List Step} {last last' : Control}

theorem unique (h : EndsAt steps inner last after) (h' : EndsAt steps inner' last' after') :
    inner = inner' ∧ last = last' ∧ after = after' := by
  have heq := h.whole.symm.trans h'.whole
  obtain rfl := h.enclosed.unique h'.enclosed (Step.closes_control h.closes) (Step.closes_control h'.closes) heq
  obtain ⟨hlast, rfl⟩ := List.cons.inj (List.append_cancel_left heq)
  cases hlast
  exact ⟨rfl, rfl, rfl⟩

theorem append (h : EndsAt steps inner last after) (more : List Step) :
    EndsAt (steps ++ more) inner last (after ++ more) :=
  ⟨by rw [h.whole, List.append_assoc, List.cons_append], h.enclosed, h.closes⟩

end EndsAt

mutual

theorem Node.Linear.enclosed : ∀ {node : Node} {s : List Step}, node.Linear s → Enclosed s
  | _, _, .emit _ | _, _, .block _ =>
    .plain (by simp [Step.Opens, Step.keyword?]) (by simp [Step.Closes, Step.keyword?]) .nil
  | _, _, .choice (s := s) hc hbody hrest => by
    obtain ⟨inner, last, hends, -⟩ := hrest.exists_endsAt
    rw [hends.whole, ← List.append_assoc]
    exact .block (.inl (congrArg some hc.1)) (hbody.enclosed.append hends.enclosed) (congrArg some hends.closes) .nil
  | _, _, .loop hc hbody hd => .block (.inr (congrArg some hc.1)) hbody.enclosed (congrArg some hd) .nil

/-- The last of the steps of arms ends their block; any other step that ends a block can stand there. -/
theorem Arms.Linear.exists_endsAt : ∀ {arms : Arms} {s : List Step}, arms.Linear s →
    ∃ inner last, EndsAt s inner last [] ∧
      ∀ last' : Control, last'.keyword = .endBlock → arms.Linear (inner ++ [.control last'])
  | _, _, .done hd => ⟨[], _, ⟨rfl, .nil, hd⟩, fun _ hlast => .done hlast⟩
  | _, _, .otherwise hc hbody hd =>
    ⟨.control _ :: _, _, ⟨rfl, (Enclosed.branch (.inr hc)).append hbody.enclosed, hd⟩,
      fun _ hlast => .otherwise hc hbody hlast⟩
  | _, _, .test (c := c) (s := s) hc hbody hrest => by
    obtain ⟨inner, last, hends, hother⟩ := hrest.exists_endsAt
    have henclosed := (Enclosed.branch (.inl hc.1)).append (hbody.enclosed.append hends.enclosed)
    refine ⟨.control c :: (s ++ inner), last, ⟨?_, henclosed, hends.closes⟩, fun last' hlast => ?_⟩
    · rw [hends.whole, List.cons_append, List.append_assoc]
    · rw [List.cons_append, List.append_assoc]
      exact .test hc hbody (hother last' hlast)

theorem LinearBody.enclosed : ∀ {nodes : List Node} {s : List Step}, LinearBody nodes s → Enclosed s
  | _, _, .nil => .nil
  | _, _, .cons hnode hnodes => hnode.enclosed.append hnodes.enclosed

end

/-! ## A choice in the rest of a choice -/

/-- The control lines that take the place of the `elif` line `c`: an `else`, an `if` with the same condition, and
an `end` for it. -/
structure Nesting (c : Control) where
  other : Control
  inner : Control
  last : Control
  keyword : c.keyword = .elifBranch
  other_keyword : other.keyword = .elseBranch
  inner_keyword : inner.keyword = .ifBlock
  inner_condition : inner.condition = c.condition
  last_keyword : last.keyword = .endBlock

namespace Nesting

variable {c : Control} (n : Nesting c)

theorem text_inner : n.inner.text = c.text := congrArg (·.getD []) n.inner_condition

/-- The steps with a choice of its own in the place of an `elif`: it ends right before the `end` of the block. -/
def steps (before middle : List Step) (d : Control) (after : List Step) : List Step :=
  before ++ .control n.other :: .control n.inner :: (middle ++ .control n.last :: .control d :: after)

/-- The steps have a property once the `elif` between `before` and `rest` is rewritten. -/
def Gives (before rest : List Step) (P : List Step → Prop) : Prop :=
  ∃ middle d after, EndsAt rest middle d after ∧ P (n.steps before middle d after)

namespace Gives

variable {n} {before rest : List Step} {P Q : List Step → Prop}

theorem mono (h : n.Gives before rest P) (himp : ∀ s, P s → Q s) : n.Gives before rest Q := by
  obtain ⟨middle, d, after, hends, hP⟩ := h
  exact ⟨middle, d, after, hends, himp _ hP⟩

theorem cons {x : Step} (h : n.Gives before rest fun s => P (x :: s)) : n.Gives (x :: before) rest P := h

theorem append_left {s : List Step} (h : n.Gives before rest fun t => P (s ++ t)) :
    n.Gives (s ++ before) rest P := by
  obtain ⟨middle, d, after, hends, hP⟩ := h
  refine ⟨middle, d, after, hends, ?_⟩
  rwa [steps, List.append_assoc]

theorem append_right {t : List Step} (h : n.Gives before rest fun s => P (s ++ t)) :
    n.Gives before (rest ++ t) P := by
  obtain ⟨middle, d, after, hends, hP⟩ := h
  refine ⟨middle, d, after ++ t, hends.append t, ?_⟩
  simpa [steps] using hP

end Gives

include n

/-- Where steps begin with another one, the `elif` stands behind it. -/
theorem behind {x : Step} {s before rest : List Step} (hx : x.keyword? ≠ some .elifBranch)
    (h : x :: s = before ++ .control c :: rest) :
    ∃ before', before = x :: before' ∧ s = before' ++ .control c :: rest := by
  obtain ⟨-, heq⟩ | hbehind := List.cons_eq_append_iff.1 h
  · obtain ⟨rfl, -⟩ := List.cons.inj heq
    exact absurd (congrArg some n.keyword) hx
  · exact hbehind

theorem ne_singleton {x : Step} {before rest : List Step} (hx : x.keyword? ≠ some .elifBranch) :
    [x] ≠ before ++ .control c :: rest := by
  intro h
  obtain ⟨_, -, hnil⟩ := n.behind hx h
  exact absurd hnil (by simp)

end Nesting

/-- The step at some place of steps in two parts is in the first part or in the second one. -/
theorem append_eq_append_cons {s t before rest : List Step} {x : Step} (h : s ++ t = before ++ x :: rest) :
    (∃ rest', s = before ++ x :: rest' ∧ rest = rest' ++ t) ∨
      ∃ before', before = s ++ before' ∧ t = before' ++ x :: rest := by
  rcases List.append_eq_append_iff.1 h with ⟨before', rfl, ht⟩ | ⟨m, rfl, hrest⟩
  · exact .inr ⟨before', rfl, ht⟩
  · cases m with
    | nil => exact .inr ⟨[], by simp, hrest.symm⟩
    | cons y m =>
      obtain ⟨rfl, rfl⟩ := List.cons.inj hrest
      exact .inl ⟨m, rfl, rfl⟩

/-- The arm of a condition and the arms behind it run like a body that holds a choice of them. -/
theorem Arms.run_otherwise_choice (arms : Arms) : Arms.run (.otherwise [.choice arms]) = arms.run := by
  rw [Arms.run, runNodes_singleton, Node.run]

section

variable {c : Control} (n : Nesting c)

mutual

/-- The run lemma: with an `elif` rewritten, the steps of an instruction are those of one that runs alike. The
`elif` is in a body or heads an arm; what stands around it stays. -/
theorem Node.Linear.nest {node : Node} {s : List Step} (h : node.Linear s) {before rest : List Step}
    (hs : s = before ++ .control c :: rest) :
    n.Gives before rest fun t => ∃ node' : Node, node'.Linear t ∧ node'.run = node.run := by
  cases h with
  | emit segments | block nodes => exact absurd hs (n.ne_singleton (by simp [Step.keyword?]))
  | choice hhead hbody harms =>
    obtain ⟨before, rfl, heq⟩ := n.behind (by simp [Step.keyword?, hhead.1]) hs
    obtain ⟨rest, rfl, rfl⟩ | ⟨before, rfl, rfl⟩ := append_eq_append_cons heq
    · refine .cons (.append_right ((hbody.nest rfl).mono ?_))
      rintro s ⟨body, hbody, hrun⟩
      exact ⟨_, .choice hhead hbody harms, by rw [Node.run, Node.run, Arms.run, Arms.run, hrun]⟩
    · refine .cons (.append_left ((harms.nest rfl).mono ?_))
      rintro t ⟨arms, harms, hrun⟩
      exact ⟨_, .choice hhead hbody harms, by rw [Node.run, Node.run, Arms.run, Arms.run, hrun]⟩
  | loop hhead hbody hlast =>
    obtain ⟨before, rfl, heq⟩ := n.behind (by simp [Step.keyword?, hhead.1]) hs
    obtain ⟨rest, rfl, rfl⟩ | ⟨_, -, htail⟩ := append_eq_append_cons heq
    · refine .cons (.append_right ((hbody.nest rfl).mono ?_))
      rintro s ⟨body, hbody, hrun⟩
      exact ⟨_, .loop hhead hbody hlast, by rw [Node.run, Node.run, hrun]⟩
    · exact absurd htail (n.ne_singleton (by simp [Step.keyword?, hlast]))

theorem Arms.Linear.nest {arms : Arms} {s : List Step} (h : arms.Linear s) {before rest : List Step}
    (hs : s = before ++ .control c :: rest) :
    n.Gives before rest fun t => ∃ arms' : Arms, arms'.Linear t ∧ arms'.run = arms.run := by
  cases h with
  | done hlast => exact absurd hs (n.ne_singleton (by simp [Step.keyword?, hlast]))
  | otherwise hhead hbody hlast =>
    obtain ⟨before, rfl, heq⟩ := n.behind (by simp [Step.keyword?, hhead]) hs
    obtain ⟨rest, rfl, rfl⟩ | ⟨_, -, htail⟩ := append_eq_append_cons heq
    · refine .cons (.append_right ((hbody.nest rfl).mono ?_))
      rintro s ⟨body, hbody, hrun⟩
      exact ⟨_, .otherwise hhead hbody hlast, by rw [Arms.run, Arms.run, hrun]⟩
    · exact absurd htail (n.ne_singleton (by simp [Step.keyword?, hlast]))
  | @test head e body arms s t hhead hbody harms =>
    obtain ⟨rfl, heq⟩ | ⟨before, rfl, heq⟩ := List.cons_eq_append_iff.1 hs
    · -- the `elif` heads this arm, so the rewritten block ends with the arms
      cases heq
      obtain ⟨inner, d, ⟨rfl, hinner, hd⟩, hother⟩ := harms.exists_endsAt
      have hends : EndsAt (s ++ (inner ++ [.control d])) (s ++ inner) d [] :=
        ⟨(List.append_assoc ..).symm, hbody.enclosed.append hinner, hd⟩
      have hchoice : Node.Linear (.choice (.test e body arms))
          (.control n.inner :: (s ++ (inner ++ [.control n.last]))) :=
        .choice ⟨n.inner_keyword, n.text_inner ▸ hhead.2⟩ hbody (hother n.last n.last_keyword)
      have hsteps := Arms.Linear.otherwise n.other_keyword (.cons hchoice .nil) hd
      refine ⟨s ++ inner, d, [], hends, _, ?_, Arms.run_otherwise_choice _⟩
      simpa [Nesting.steps] using hsteps
    obtain ⟨rest, rfl, rfl⟩ | ⟨before, rfl, rfl⟩ := append_eq_append_cons heq
    · refine .cons (.append_right ((hbody.nest rfl).mono ?_))
      rintro s ⟨body, hbody, hrun⟩
      exact ⟨_, .test hhead hbody harms, by rw [Arms.run, Arms.run, hrun]⟩
    · refine .cons (.append_left ((harms.nest rfl).mono ?_))
      rintro t ⟨arms, harms, hrun⟩
      exact ⟨_, .test hhead hbody harms, by rw [Arms.run, Arms.run, hrun]⟩

theorem LinearBody.nest {nodes : List Node} {s : List Step} (h : LinearBody nodes s) {before rest : List Step}
    (hs : s = before ++ .control c :: rest) :
    n.Gives before rest fun t => ∃ nodes', LinearBody nodes' t ∧ runNodes nodes' = runNodes nodes := by
  cases h with
  | nil => exact absurd hs (by simp)
  | cons hnode hnodes =>
    obtain ⟨rest, rfl, rfl⟩ | ⟨before, rfl, rfl⟩ := append_eq_append_cons hs
    · refine .append_right ((hnode.nest rfl).mono ?_)
      rintro s ⟨node, hnode, hrun⟩
      exact ⟨_, .cons hnode hnodes, by rw [runNodes, runNodes, hrun]⟩
    · refine .append_left ((hnodes.nest rfl).mono ?_)
      rintro t ⟨nodes, hnodes, hrun⟩
      exact ⟨_, .cons hnode hnodes, by rw [runNodes, runNodes, hrun]⟩

end

end

/-- The nesting by plain control lines. -/
def Nesting.plain {c : Control} (h : c.keyword = .elifBranch) : Nesting c where
  other := ⟨.elseBranch, none, c.indent, c.nextIndent⟩
  inner := { c with keyword := .ifBlock }
  last := ⟨.endBlock, none, c.indent, c.nextIndent⟩
  keyword := h
  other_keyword := rfl
  inner_keyword := rfl
  inner_condition := rfl
  last_keyword := rfl

/-- An `elif` is an `else` with a choice of its own in it. In steps that assemble, the block of any `elif` ends
at one place. With an `else` and an `if` for the `elif`, and one more `end` right before that place, they assemble
again, to a program that writes the same lines, or fails alike, in every context. -/
theorem Program.assemble_elif_as_nested_choice {p : Program} {before rest : List Step} {c : Control}
    (h : assemble (before ++ .control c :: rest) = .ok p) (hc : c.keyword = .elifBranch) :
    (∃ middle d after, EndsAt rest middle d after) ∧
    ∀ middle d after, EndsAt rest middle d after → ∀ n : Nesting c,
      ∃ q, assemble (n.steps before middle d after) = .ok q ∧
        ∀ ctx buffer, q.evaluate ctx buffer = p.evaluate ctx buffer := by
  have hlinear := assemble_eq_ok_iff.1 h
  constructor
  · obtain ⟨middle, d, after, hends, -⟩ := hlinear.nest (.plain hc) rfl
    exact ⟨middle, d, after, hends⟩
  · intro middle d after hends n
    obtain ⟨middle', d', after', hends', nodes, hnodes, hrun⟩ := hlinear.nest n rfl
    obtain ⟨rfl, rfl, rfl⟩ := hends.unique hends'
    refine ⟨⟨nodes⟩, assemble_eq_ok_iff.2 hnodes, fun ctx buffer => ?_⟩
    rw [evaluate_eq, evaluate_eq, hrun]

/-- The `end` of the choice inside is not that of the `elif`, and the `else` goes with the new choice. -/
theorem Program.assemble_elif_as_nested_choice_of_chain :
    let line (keyword : Keyword) (condition : Option Text) : Step := .control ⟨keyword, condition, 0, 0⟩
    let first := [line .ifBlock (some ['a']), .emit [.text ['x']]]
    let inner := [line .ifBlock (some ['c']), .emit [.text ['y']], line .endBlock none,
      line .elseBranch none, .emit [.text ['z']]]
    let last := line .endBlock none
    ∃ p q, assemble (first ++ line .elifBranch (some ['b']) :: (inner ++ [last])) = .ok p ∧
      assemble (first ++ line .elseBranch none :: line .ifBlock (some ['b']) :: (inner ++ [last, last])) = .ok q ∧
      ∀ ctx buffer, q.evaluate ctx buffer = p.evaluate ctx buffer := by
  intro line first inner last
  have hp : assemble (first ++ line .elifBranch (some ['b']) :: (inner ++ [last])) =
      .ok ⟨[.choice (.test (.name "a") [.emit [.text ['x']]] (.test (.name "b")
        [.choice (.test (.name "c") [.emit [.text ['y']]] .done)] (.otherwise [.emit [.text ['z']]])))]⟩ := by
    with_unfolding_all rfl
  have hinner : Enclosed inner := by
    refine .block (.inl rfl) (.plain ?_ ?_ .nil) rfl (.plain ?_ ?_ (.plain ?_ ?_ .nil)) <;>
      simp [line, Step.Opens, Step.Closes, Step.keyword?]
  obtain ⟨q, hq, heq⟩ := (assemble_elif_as_nested_choice hp rfl).2 inner ⟨.endBlock, none, 0, 0⟩ []
    ⟨rfl, hinner, rfl⟩ (.plain rfl)
  exact ⟨_, q, hp, hq, heq⟩

end PageTemplate
