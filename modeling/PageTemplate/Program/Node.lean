/-
Programs: the block structure of a template after its lines have been substituted.
-/
import PageTemplate.Expr.Basic
import PageTemplate.Line.Substitution

namespace PageTemplate

mutual

/-- An instruction of a program. -/
inductive Node where
  /-- Appends one line to the output. -/
  | emit (segments : List Segment)
  /-- The instructions that a value of several lines stands for. -/
  | block (nodes : List Node)
  /-- Runs the body of the first arm whose condition is true. -/
  | choice (arms : Arms)
  /-- Runs the body once for every item. -/
  | loop (header : LoopHeader) (body : List Node)

/-- The arms of a choice: conditions with their bodies, then at most one body for the rest. -/
inductive Arms where
  | done
  | otherwise (body : List Node)
  | test (condition : Expr) (body : List Node) (rest : Arms)

end

/-- A program. -/
structure Program where
  nodes : List Node

end PageTemplate
