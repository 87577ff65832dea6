/-
Running a program. The scope holds the context, the loop variables that are bound, and the output so
far, which is itself visible as a list under the buffer name. Loop variables hide the buffer, and
the buffer hides the context.
-/
import PageTemplate.Expr.Eval
import PageTemplate.Program.Node

namespace PageTemplate

/-- What a running program sees and writes. -/
structure Scope where
  context : Context
  /-- The loop variables, the one bound last first. -/
  locals : Fields Value
  buffer : String
  output : Array Text

namespace Scope

/-- The output so far as a value. -/
def outputValue (scope : Scope) : Value :=
  .list (scope.output.toList.map fun line => .str (String.ofList line))

/-- The value of a name. -/
def get? (scope : Scope) (name : String) : Option Value :=
  match scope.locals.get? name with
  | some value => some value
  | none => if name = scope.buffer then some scope.outputValue else scope.context.get? name

/-- Appends a line to the output. -/
def append (scope : Scope) (line : Text) : Scope := { scope with output := scope.output.push line }

end Scope

/-- A computation that reads and writes the scope and can fail; what was written before a failure
stays. -/
abbrev Run (α : Type) := ExceptT EvaluationFault (StateM Scope) α

/-- The segment as text, with a deferred placeholder looked up again. -/
def Segment.emitted (env : String → Option Value) : Segment → Text
  | .text t => t
  | .deferred d =>
    match env d.name with
    | some value => value.through d.attr d.filters
    | none => d.stripped

/-- The items that a value is iterated by: the items of a list, the keys of a map, the characters of
a string; null has none. -/
def Value.iterated : Value → Except EvaluationFault (List Value)
  | .list items => .ok items
  | .map fields => .ok (fields.map fun (key, _) => .str key)
  | .str s => .ok (s.toList.map fun c => .str c.toString)
  | .null => .ok []
  | v => .error (.notIterable v.kind)

/-- The bindings that an item makes: one name takes the item, several take the items of a list of
as many. -/
def LoopHeader.bindings (header : LoopHeader) (item : Value) :
    Except EvaluationFault (Fields Value) :=
  match header.targets, item with
  | [name], item => .ok [(name, item)]
  | names, .list parts =>
    if parts.length = names.length then .ok (names.zip parts)
    else .error (.cannotUnpack .list names.length)
  | names, item => .error (.cannotUnpack item.kind names.length)

/-- Runs `body` with more loop variables, which are gone afterwards whether it fails or not. -/
def Run.binding (bindings : Fields Value) (body : Run Unit) : Run Unit :=
  ExceptT.mk fun scope =>
    let (result, after) := body.run { scope with locals := bindings.reverse ++ scope.locals }
    (result, { after with locals := after.locals.drop bindings.length })

mutual

/-- Runs an instruction. -/
def Node.run : Node → Run Unit
  | .emit segments => modify fun scope => scope.append (segments.flatMap (·.emitted scope.get?))
  | .block nodes => runNodes nodes
  | .choice arms => arms.run
  | .loop header body => do
    let source ← header.source.eval (← get).get?
    let items ← source.iterated
    items.forM fun item => do
      let bindings ← header.bindings item
      Run.binding bindings (runNodes body)

/-- Runs the first arm whose condition is true. -/
def Arms.run : Arms → Run Unit
  | .done => pure ()
  | .otherwise body => runNodes body
  | .test condition body rest => do
    let v ← condition.eval (← get).get?
    if v.isTruthy then runNodes body else rest.run

/-- Runs instructions one after the other. -/
def runNodes : List Node → Run Unit
  | [] => pure ()
  | node :: rest => do
    node.run
    runNodes rest

end

/-- The lines that a program writes. -/
def Program.evaluate (program : Program) (ctx : Context) (buffer : String) :
    Except EvaluationFault (List Text) :=
  let (result, scope) := (runNodes program.nodes).run ⟨ctx, [], buffer, #[]⟩
  result.map fun _ => scope.output.toList

end PageTemplate
