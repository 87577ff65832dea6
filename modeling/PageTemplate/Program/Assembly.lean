/-
Assembling a program from substituted statements. Open blocks are kept on a stack, innermost first;
each collects the instructions of the body that is being filled. A statement that fits no open block
and a condition that is no expression stop the assembly.
-/
import PageTemplate.Expr.Parse
import PageTemplate.Line.Statement
import PageTemplate.Program.Node

namespace PageTemplate

/-- A statement after substitution. -/
inductive Step where
  | emit (segments : List Segment)
  | block (nodes : List Node)
  | control (c : Control)

/-- What an open block began with, and its finished arms, the last one first. -/
inductive Opening where
  | test (finished : List (Expr × List Node)) (condition : Expr)
  | otherwise (finished : List (Expr × List Node))
  | loop (header : LoopHeader)

/-- An open block and the instructions of the body that is being filled, the last one first. -/
structure Frame where
  opening : Opening
  body : List Node

/-- Puts finished arms, the last one first, in front of others. -/
def Arms.behind (finished : List (Expr × List Node)) (rest : Arms) : Arms :=
  finished.foldl (fun rest (condition, body) => .test condition body rest) rest

namespace Frame

/-- The instruction that a block becomes when it is closed. -/
def close : Frame → Node
  | ⟨.test finished condition, body⟩ =>
    .choice (Arms.behind ((condition, body.reverse) :: finished) .done)
  | ⟨.otherwise finished, body⟩ => .choice (Arms.behind finished (.otherwise body.reverse))
  | ⟨.loop header, body⟩ => .loop header body.reverse

def kind : Frame → BlockKind
  | ⟨.loop _, _⟩ => .loop
  | _ => .conditional

end Frame

/-- An unfinished program: the open blocks, innermost first, and the instructions outside of all
blocks, the last one first. -/
structure Assembly where
  frames : List Frame
  top : List Node

namespace Assembly

def empty : Assembly := ⟨[], []⟩

/-- Adds an instruction to the innermost body. -/
def add (node : Node) : Assembly → Assembly
  | ⟨[], top⟩ => ⟨[], node :: top⟩
  | ⟨frame :: frames, top⟩ => ⟨{ frame with body := node :: frame.body } :: frames, top⟩

/-- The expression of a condition. -/
def condition (text : Text) : Except EvaluationFault Expr :=
  (Expr.parse text).mapError (.invalidExpression (String.ofList text))

/-- The header of a loop. -/
def header (text : Text) : Except EvaluationFault LoopHeader :=
  (Expr.parseHeader text).mapError (.invalidExpression (String.ofList text))

/-- Opens, divides or closes a block. -/
def control (keyword : Keyword) (text : Text) (a : Assembly) : Except EvaluationFault Assembly :=
  match keyword, a.frames with
  | .ifBlock, frames => do
    return { a with frames := ⟨.test [] (← condition text), []⟩ :: frames }
  | .forLoop, frames => do
    return { a with frames := ⟨.loop (← header text), []⟩ :: frames }
  | .elifBranch, ⟨.test finished c, body⟩ :: frames => do
    let finished := (c, body.reverse) :: finished
    return { a with frames := ⟨.test finished (← condition text), []⟩ :: frames }
  | .elifBranch, ⟨.otherwise _, _⟩ :: _ => .error .elifAfterElse
  | .elifBranch, _ => .error .elifOutsideIf
  | .elseBranch, ⟨.test finished c, body⟩ :: frames =>
    .ok { a with frames := ⟨.otherwise ((c, body.reverse) :: finished), []⟩ :: frames }
  | .elseBranch, ⟨.otherwise _, _⟩ :: _ => .error .secondElse
  | .elseBranch, _ => .error .elseOutsideIf
  | .endBlock, frame :: frames => .ok (add frame.close { a with frames })
  | .endBlock, [] => .error .endOutsideBlock

/-- Takes one more statement. -/
def step (a : Assembly) : Step → Except EvaluationFault Assembly
  | .emit segments => .ok (a.add (.emit segments))
  | .block nodes => .ok (a.add (.block nodes))
  | .control c => a.control c.keyword (c.condition.getD [])

/-- The program, if every block is closed. -/
def finish : Assembly → Except EvaluationFault Program
  | ⟨[], top⟩ => .ok ⟨top.reverse⟩
  | ⟨frame :: _, _⟩ => .error (.unclosedBlock frame.kind)

end Assembly

/-- The program that statements make. -/
def Program.assemble (steps : List Step) : Except EvaluationFault Program := do
  (← steps.foldlM Assembly.step Assembly.empty).finish

end PageTemplate
