/-
Compiling lines into statements. A control line has the form `{% keyword condition %}`, where the
tag begins at the first `{% ` of the line and ends at the last ` %}` after it.
-/
import PageTemplate.Line.Statement
import PageTemplate.Text.Quoted

namespace PageTemplate

/-- The name under which the output is known unless the settings say otherwise. -/
def defaultBuffer : String := "output"

namespace Statement

def tagOpen : Text := ['{', '%']

def tagClose : Text := ['%', '}']

/-- Has the line both marks of a tag? -/
def isControlLine (line : Text) : Bool := Text.contains tagOpen line && Text.contains tagClose line

/-- A character of a keyword. -/
def isKeywordChar (c : Char) : Bool := 'a' ≤ c && c ≤ 'z'

/-- The first word in the tag of a line, and the trimmed rest of the tag if there is any. -/
def splitTag? (line : Text) : Option (Text × Option Text) := do
  let (_, rest) ← Text.cut? (tagOpen ++ [' ']) line
  let (inner, _) ← Text.cutLast? (' ' :: tagClose) rest
  let condition := Text.trim (inner.dropWhile isKeywordChar)
  match inner.takeWhile isKeywordChar with
  | [] => none
  | word => some (word, if condition = [] then none else some condition)

/-- The keyword and the condition of a control line. -/
def readControl (line : Text) : Except GrammarFault (Keyword × Option Text) :=
  match splitTag? line with
  | none => .error .noStatement
  | some (word, condition) =>
    let word := String.ofList word
    match Keyword.named? word with
    | none => .error (.unknownStatement word)
    | some keyword =>
      match keyword.takesCondition, condition with
      | true, none => .error (.missingCondition word)
      | false, some _ => .error (.unwantedCondition word)
      | _, _ => .ok (keyword, condition)

/-- The statement of a line at a running indent. The number of the line appears in errors only. -/
def ofLine (buffer : String) (number : Nat) (indent : Int32) (line : Text) :
    Except TemplateError Statement :=
  if isControlLine line then
    match readControl line with
    | .ok (keyword, condition) =>
      .ok (.control ⟨keyword, condition, indent + keyword.ownShift, indent + keyword.nextShift⟩)
    | .error fault => .error (.grammar number (String.ofList line) fault)
  else .ok (.literal ⟨line, indent, indent, buffer⟩)

/-- The statements of lines, of which the first has the given number and running indent. -/
def ofLinesFrom (buffer : String) (number : Nat) (indent : Int32) :
    List Text → Except TemplateError (List Statement)
  | [] => .ok []
  | line :: rest => do
    let statement ← ofLine buffer number indent line
    let more ← ofLinesFrom buffer (number + 1) statement.nextIndent rest
    return statement :: more

/-- The statements of the lines of a template. -/
def ofLines (buffer : String) (lines : List Text) : Except TemplateError (List Statement) :=
  ofLinesFrom buffer 1 0 lines

/-- The line of a listing that appends a text to the output. -/
def appended (buffer : String) (content : Text) : Text :=
  buffer.toList ++ ".append(".toList ++ Text.quoted content ++ [')']

/-- The statement as a line of a listing. -/
def listed : Statement → Text
  | .literal l => indentation l.indent ++ appended l.buffer l.content
  | .control c => indentation c.indent ++ c.content

end Statement

end PageTemplate
