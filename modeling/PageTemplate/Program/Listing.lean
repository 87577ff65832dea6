/-
The listing of a program: one instruction a line, bodies indented by two.
-/
import PageTemplate.Line.Compile
import PageTemplate.Program.Node

namespace PageTemplate

/-- A line of a listing at an indent. -/
def listedAt (indent : Nat) (line : Text) : Text := List.replicate indent ' ' ++ line

/-- The header of a conditional arm: the first one begins with `if`, the others with `elif`. -/
def armHeader (first : Bool) (condition : Expr) : Text :=
  (if first then "if " else "elif ").toList ++ condition.shown ++ [':']

/-- The header of a loop. -/
def LoopHeader.listed (header : LoopHeader) : Text :=
  "for ".toList ++ Value.separator.intercalate (header.targets.map String.toList) ++ " in ".toList
    ++ header.source.shown ++ [':']

/-- The lines of a body; a body without lines has one to say so. -/
def bodyOr (indent : Nat) (nodes : List Node) (lines : List Text) : List Text :=
  match nodes with
  | [] => [listedAt indent emptyBody]
  | _ => lines

mutual

/-- The lines of an instruction. -/
def Node.listed (buffer : String) (indent : Nat) : Node → List Text
  | .emit segments => [listedAt indent (Statement.appended buffer (segments.flatMap Segment.shown))]
  | .block nodes => listedNodes buffer indent nodes
  | .choice arms => arms.listed buffer indent true
  | .loop header body =>
    listedAt indent header.listed ::
      bodyOr (indent + 2) body (listedNodes buffer (indent + 2) body)

/-- The lines of the arms of a choice. -/
def Arms.listed (buffer : String) (indent : Nat) (first : Bool) : Arms → List Text
  | .done => []
  | .otherwise body =>
    listedAt indent "else:".toList :: bodyOr (indent + 2) body (listedNodes buffer (indent + 2) body)
  | .test condition body rest =>
    listedAt indent (armHeader first condition) ::
      bodyOr (indent + 2) body (listedNodes buffer (indent + 2) body)
      ++ rest.listed buffer indent false

/-- The lines of instructions one after the other. -/
def listedNodes (buffer : String) (indent : Nat) : List Node → List Text
  | [] => []
  | node :: rest => node.listed buffer indent ++ listedNodes buffer indent rest

end

/-- The listing of a program, with a line break after every line. -/
def Program.listing (program : Program) (buffer : String) : Text :=
  (listedNodes buffer 0 program.nodes).flatMap (· ++ ['\n'])

end PageTemplate
