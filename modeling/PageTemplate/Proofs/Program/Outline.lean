/-
The outline of a program: its blocks and their conditions, with a leaf in the place of every line of
output and of every nested block of instructions. Assembling looks at nothing else, so lists of steps of
one outline assemble to programs of one outline, or are refused for one reason. And the keywords of the
steps that assemble are nested like brackets.
-/
import PageTemplate.Proofs.Program.Assembled

namespace PageTemplate

/-! ## Outlines -/

mutual

/-- An instruction with a leaf for each line of output and for each block of instructions in it. -/
def Node.outline : Node → Node
  | .emit _ => .emit []
  | .block _ => .emit []
  | .choice arms => .choice arms.outline
  | .loop header body => .loop header (outlineOf body)

def Arms.outline : Arms → Arms
  | .done => .done
  | .otherwise body => .otherwise (outlineOf body)
  | .test condition body rest => .test condition (outlineOf body) rest.outline

def outlineOf : List Node → List Node
  | [] => []
  | node :: rest => node.outline :: outlineOf rest

end

def Program.outline (program : Program) : Program := ⟨outlineOf program.nodes⟩

/-- A step that becomes a leaf is one. -/
def Step.outline : Step → Step
  | .emit _ => .emit []
  | .block _ => .emit []
  | .control c => .control c

theorem outlineOf_eq_map : ∀ nodes, outlineOf nodes = nodes.map Node.outline
  | [] => rfl
  | node :: rest => by rw [outlineOf, outlineOf_eq_map rest, List.map_cons]

theorem outlineOf_reverse (nodes : List Node) : outlineOf nodes.reverse = (outlineOf nodes).reverse := by
  rw [outlineOf_eq_map, outlineOf_eq_map, List.map_reverse]

/-! ## Outlines of unfinished programs -/

def armsOutline (finished : List (Expr × List Node)) : List (Expr × List Node) :=
  finished.map fun (condition, body) => (condition, outlineOf body)

def Opening.outline : Opening → Opening
  | .test finished condition => .test (armsOutline finished) condition
  | .otherwise finished => .otherwise (armsOutline finished)
  | .loop header => .loop header

def Frame.outline (frame : Frame) : Frame := ⟨frame.opening.outline, outlineOf frame.body⟩

theorem Arms.outline_behind (finished : List (Expr × List Node)) (rest : Arms) :
    (Arms.behind finished rest).outline = Arms.behind (armsOutline finished) rest.outline := by
  induction finished generalizing rest with
  | nil => rfl
  | cons arm finished ih => exact ih (.test arm.1 arm.2 rest)

theorem Frame.outline_close (frame : Frame) : frame.close.outline = frame.outline.close := by
  obtain ⟨_ | _ | _, body⟩ := frame
  · simp only [close, outline, Opening.outline, Node.outline, Arms.outline_behind, armsOutline,
      List.map_cons, outlineOf_reverse, Arms.outline]
  · simp only [close, outline, Opening.outline, Node.outline, Arms.outline_behind, Arms.outline,
      outlineOf_reverse]
  · simp only [close, outline, Opening.outline, Node.outline, outlineOf_reverse]

theorem Frame.kind_outline (frame : Frame) : frame.outline.kind = frame.kind := by
  obtain ⟨_ | _ | _, body⟩ := frame <;> rfl

namespace Assembly

def outline (a : Assembly) : Assembly := ⟨a.frames.map Frame.outline, outlineOf a.top⟩

theorem outline_add (a : Assembly) (node : Node) : (a.add node).outline = a.outline.add node.outline := by
  obtain ⟨_ | ⟨frame, frames⟩, top⟩ := a <;> rfl

theorem phase?_outline (a : Assembly) : a.outline.phase? = a.phase? := by
  obtain ⟨_ | ⟨⟨_ | _ | _, _⟩, _⟩, _⟩ := a <;> rfl

/-- What is taken by an unfinished program is taken by its outline. -/
theorem Takes.outline {a a' : Assembly} {c : Control} (h : a.Takes c a') : a.outline.Takes c a'.outline := by
  cases h with
  | ifBlock hc => exact .ifBlock hc
  | forLoop hc => exact .forLoop hc
  | @elifBranch _ finished e e' body top frames hc =>
    have htakes := @Takes.elifBranch _ (armsOutline finished) e e' (outlineOf body) (outlineOf top)
      (frames.map Frame.outline) hc
    rwa [← outlineOf_reverse] at htakes
  | @elseBranch _ finished e body top frames hc =>
    have htakes := @Takes.elseBranch _ (armsOutline finished) e (outlineOf body) (outlineOf top)
      (frames.map Frame.outline) hc
    rwa [← outlineOf_reverse] at htakes
  | endBlock hc =>
    rw [outline_add, Frame.outline_close]
    exact .endBlock hc

/-- What is refused is refused for the phase of the innermost block. -/
theorem Refuses.of_phase {a b : Assembly} {c : Control} {fault : EvaluationFault} (h : a.Refuses c fault)
    (heq : b.phase? = a.phase?) : b.Refuses c fault := by
  cases h with
  | condition hk hp => exact .condition (heq ▸ hk) hp
  | header hk hp => exact .header hk hp
  | elifAfterElse hk hphase => exact .elifAfterElse hk (heq ▸ hphase)
  | elifOutsideIf hk hphase => exact .elifOutsideIf hk (heq ▸ hphase)
  | secondElse hk hphase => exact .secondElse hk (heq ▸ hphase)
  | elseOutsideIf hk hphase => exact .elseOutsideIf hk (heq ▸ hphase)
  | endOutsideBlock hk hphase => exact .endOutsideBlock hk (heq ▸ hphase)

/-- The step lemma: the outline of a step takes the outline of an unfinished program where the step
takes the program. -/
theorem step_outline (a : Assembly) (x : Step) : a.outline.step x.outline = outline <$> a.step x := by
  cases x with
  | emit segments => exact congrArg Except.ok (outline_add a (.emit segments)).symm
  | block nodes => exact congrArg Except.ok (outline_add a (.block nodes)).symm
  | control c =>
    rcases a.takes_or_refuses c with ⟨a', h⟩ | ⟨fault, h⟩
    · rw [h.step, map_ok]
      exact h.outline.step
    · rw [h.step, map_error]
      exact (h.of_phase a.phase?_outline).step

/-- The run lemma. -/
theorem foldlM_outline (steps : List Step) (a : Assembly) :
    (steps.map Step.outline).foldlM step a.outline = outline <$> steps.foldlM step a := by
  induction steps generalizing a with
  | nil => rfl
  | cons x steps ih =>
    rw [List.map_cons, List.foldlM_cons, List.foldlM_cons, step_outline]
    cases a.step x with
    | error fault => rfl
    | ok a' => exact ih a'

theorem finish_outline (a : Assembly) : a.outline.finish = Program.outline <$> a.finish := by
  obtain ⟨_ | ⟨frame, frames⟩, top⟩ := a
  · show Except.ok (Program.mk (outlineOf top).reverse) = Except.ok ⟨outlineOf top.reverse⟩
    rw [outlineOf_reverse]
  · show Except.error (EvaluationFault.unclosedBlock frame.outline.kind) = _
    rw [Frame.kind_outline]
    rfl

/-- A leaf goes into the innermost body; the open blocks stay as they are. -/
theorem step_of_leaf {x : Step} (h : x.outline = .emit []) (a : Assembly) :
    ∃ a', a.step x = .ok a' ∧ a'.frames.map Frame.opening = a.frames.map Frame.opening := by
  have hadd (node : Node) : (a.add node).frames.map Frame.opening = a.frames.map Frame.opening := by
    obtain ⟨_ | ⟨frame, frames⟩, top⟩ := a <;> rfl
  cases x with
  | emit segments => exact ⟨_, rfl, hadd (.emit segments)⟩
  | block nodes => exact ⟨_, rfl, hadd (.block nodes)⟩
  | control => cases h

end Assembly

/-- Assembling outlines gives the outline of what is assembled, or the same fault. -/
theorem Program.assemble_outline (steps : List Step) :
    assemble (steps.map Step.outline) = Program.outline <$> assemble steps := by
  have hsteps : (steps.map Step.outline).foldlM Assembly.step .empty =
      Assembly.outline <$> steps.foldlM Assembly.step .empty :=
    Assembly.foldlM_outline steps .empty
  unfold assemble
  rw [hsteps]
  cases steps.foldlM Assembly.step .empty with
  | error fault => rfl
  | ok a => exact a.finish_outline

/-- Steps of one outline make programs of one outline, or are refused for one reason. -/
theorem Program.assemble_of_outline_eq {steps steps' : List Step}
    (h : steps.map Step.outline = steps'.map Step.outline) :
    (∃ fault, assemble steps = .error fault ∧ assemble steps' = .error fault) ∨
      ∃ p p', assemble steps = .ok p ∧ assemble steps' = .ok p' ∧ p.outline = p'.outline := by
  have heq : Program.outline <$> assemble steps = Program.outline <$> assemble steps' := by
    rw [← assemble_outline, ← assemble_outline, h]
  cases hp : assemble steps with
  | error fault =>
    rw [hp, map_error] at heq
    exact .inl ⟨fault, rfl, map_eq_error.1 heq.symm⟩
  | ok p =>
    rw [hp, map_ok] at heq
    obtain ⟨p', hp', houtline⟩ := map_eq_ok.1 heq.symm
    exact .inr ⟨p, p', rfl, hp', houtline.symm⟩

/-! ## Nested keywords -/

mutual

/-- Keywords of blocks that are all closed, one after the other and inside each other. -/
inductive Nested : List Keyword → Prop
  | nil : Nested []
  | choice {body rest after : List Keyword} :
      Nested body → NestedArms rest → Nested after → Nested (.ifBlock :: (body ++ (rest ++ after)))
  | loop {body after : List Keyword} :
      Nested body → Nested after → Nested (.forLoop :: (body ++ .endBlock :: after))

/-- What follows the first body of a choice, up to its `end`. -/
inductive NestedArms : List Keyword → Prop
  | done : NestedArms [.endBlock]
  | otherwise {body : List Keyword} : Nested body → NestedArms (.elseBranch :: (body ++ [.endBlock]))
  | test {body rest : List Keyword} :
      Nested body → NestedArms rest → NestedArms (.elifBranch :: (body ++ rest))

end

mutual

/-- As many blocks are closed as are opened. -/
theorem Nested.count : ∀ {keywords : List Keyword}, Nested keywords →
    keywords.count .endBlock = keywords.count .ifBlock + keywords.count .forLoop
  | _, .nil => rfl
  | _, .choice hbody hrest hafter => by
    have h₁ := hbody.count
    have h₂ := hrest.count
    have h₃ := hafter.count
    simp [h₁, h₂, h₃]
    omega
  | _, .loop hbody hafter => by
    have h₁ := hbody.count
    have h₂ := hafter.count
    simp [h₁, h₂]
    omega

theorem NestedArms.count : ∀ {keywords : List Keyword}, NestedArms keywords →
    keywords.count .endBlock = keywords.count .ifBlock + keywords.count .forLoop + 1
  | _, .done => rfl
  | _, .otherwise hbody => by
    have h₁ := hbody.count
    simp [h₁]
  | _, .test hbody hrest => by
    have h₁ := hbody.count
    have h₂ := hrest.count
    simp [h₁, h₂]
    omega

end

def Step.keyword? : Step → Option Keyword
  | .control c => some c.keyword
  | _ => none

/-- The keywords of steps, in order. -/
def keywordsOf (steps : List Step) : List Keyword := steps.filterMap Step.keyword?

theorem keywordsOf_control (c : Control) (steps : List Step) :
    keywordsOf (.control c :: steps) = c.keyword :: keywordsOf steps := rfl

theorem keywordsOf_append (s t : List Step) : keywordsOf (s ++ t) = keywordsOf s ++ keywordsOf t :=
  List.filterMap_append

mutual

theorem Node.Linear.nested {node : Node} {s : List Step} (h : node.Linear s) {after : List Keyword}
    (hafter : Nested after) : Nested (keywordsOf s ++ after) := by
  cases h with
  | emit | block => exact hafter
  | choice hc hbody hrest =>
    rw [keywordsOf_control, keywordsOf_append, hc.1, List.cons_append, List.append_assoc]
    exact .choice hbody.nested hrest.nested hafter
  | loop hc hbody hd =>
    rw [keywordsOf_control, keywordsOf_append, keywordsOf_control, hc.1, hd, List.cons_append,
      List.append_assoc]
    exact .loop hbody.nested hafter

theorem Arms.Linear.nested {arms : Arms} {s : List Step} (h : arms.Linear s) :
    NestedArms (keywordsOf s) := by
  cases h with
  | done hd =>
    rw [keywordsOf_control, hd]
    exact .done
  | otherwise hc hbody hd =>
    rw [keywordsOf_control, keywordsOf_append, keywordsOf_control, hc, hd]
    exact .otherwise hbody.nested
  | test hc hbody hrest =>
    rw [keywordsOf_control, keywordsOf_append, hc.1]
    exact .test hbody.nested hrest.nested

theorem LinearBody.nested {nodes : List Node} {s : List Step} (h : LinearBody nodes s) :
    Nested (keywordsOf s) := by
  cases h with
  | nil => exact .nil
  | cons hnode hnodes =>
    rw [keywordsOf_append]
    exact hnode.nested hnodes.nested

end

/-- The keywords of steps that assemble are nested. -/
theorem Program.nested_of_assemble {steps : List Step} {p : Program} (h : assemble steps = .ok p) :
    Nested (keywordsOf steps) :=
  (assemble_eq_ok_iff.1 h).nested

end PageTemplate
