/-
Rendering a template: read the clock, put included templates in place of their directives, compile,
substitute, assemble, run. Includes nest at most as deep as the settings allow and never inside
themselves; a value of several lines is compiled again in its place, nested no deeper either.
-/
import PageTemplate.Options.Basic
import PageTemplate.Program.Assembly
import PageTemplate.Program.Run
import PageTemplate.Render.Cache
import PageTemplate.Render.Inclusion
import PageTemplate.Source.Basic

namespace PageTemplate

/-- What a rendering leaves behind, also when it fails. -/
structure RenderState where
  context : Context
  clock : Clock
  cache : Cache
  /-- The programs that were assembled, with the names of their templates, the last one first. -/
  programs : List (String × Program)

/-- A computation over the state of a rendering that can fail. -/
abbrev Render (α : Type) := ExceptT TemplateError (StateM RenderState) α

/-- What a finished page is passed through. -/
abbrev Formatter := String → Except TemplateError String

/-- Settings, a source of templates, and perhaps a formatter. -/
structure Renderer where
  options : Options
  source : Source
  formatter : Option Formatter := none

/-- A part of a source, with the page of `included` in place of a directive. -/
def SourcePart.fill (included : String → Render Text) : SourcePart → Render Text
  | .text t => pure t
  | .inclusion name => included (String.ofList name)

namespace Control

/-- A control line with the placeholders of its condition substituted. -/
def substitute (ctx : Context) (c : Control) : Except TemplateError Control :=
  match c.condition with
  | none => .ok c
  | some condition => do
    let s ← Substitution.ofLine ctx condition
    return { c with condition := some s.text }

end Control

namespace Statement

/-- The step of a statement in a context; `expand` makes instructions of a source of several
lines. -/
def toStep (ctx : Context) (expand : Text → Except TemplateError (List Node)) :
    Statement → Except TemplateError Step
  | .control c => .control <$> c.substitute ctx
  | .literal l => do
    let s ← Substitution.ofLine ctx l.content
    if s.multiline then .block <$> expand s.source else return .emit s.segments

end Statement

namespace Renderer

variable (r : Renderer)

/-- The instructions of a source that a value of several lines was put into, while `levels` more
levels of such values are allowed. -/
def expand (ctx : Context) : (levels : Nat) → Text → Except TemplateError (List Node)
  | 0, _ => .error (.evaluation (.valuesNestedDeeper r.options.maxIncludeDepth))
  | levels + 1, source => do
    let statements ← Statement.ofLines r.options.bufferName source.lines
    let steps ← statements.mapM (Statement.toStep ctx (expand ctx levels))
    let program ← (Program.assemble steps).mapError .evaluation
    return program.nodes

/-- The steps of the statements of a template. -/
def steps (ctx : Context) (statements : List Statement) : Except TemplateError (List Step) :=
  statements.mapM (Statement.toStep ctx (r.expand ctx r.options.maxIncludeDepth))

/-- The program of the statements of a template. -/
def program (ctx : Context) (statements : List Statement) : Except TemplateError Program := do
  let steps ← r.steps ctx statements
  (Program.assemble steps).mapError .evaluation

/-- The page that a program writes. -/
def written (ctx : Context) (program : Program) : Except TemplateError Text := do
  let lines ← (program.evaluate ctx r.options.bufferName).mapError .evaluation
  return Text.ofLines lines

/-- Refuses a name that cannot be included into the templates of `chain`, outermost first. -/
def checkInclusion (chain : List String) (name : String) : Except TemplateError Unit :=
  if name = "" then .error (.inclusion name .missingName)
  else if name ∈ chain then .error (.inclusion name (.cycle chain name))
  else .ok ()

/-- Writes the time of the next reading into the context. -/
def refreshClock : Render Unit :=
  modify fun s => { s with context := s.context.refresh s.clock.now, clock := s.clock.tick }

/-- The statements of a source, through the cache. -/
def compiled (name : String) (source : Text) : Render (List Statement) :=
  ExceptT.mk fun s =>
    let (result, cache) := s.cache.statements name source r.options.bufferName
    (result, { s with cache })

/-- The page of a template whose includes are in place. -/
def page (name : String) (source : Text) : Render Text := do
  let statements ← r.compiled name source
  let ctx := (← get).context
  let program ← r.program ctx statements
  modify fun s => { s with programs := (name, program) :: s.programs }
  r.written ctx program

/-- The page of the template `name` with the given source, inside the templates of `chain`. The pages
of included templates come from `included`, which is told the templates that they are inside of. -/
def renderSource (included : List String → String → Render Text) (chain : List String)
    (name : String) (source : Text) : Render Text := do
  refreshClock
  let parts ← (SourcePart.ofSource source).mapM (SourcePart.fill (included (chain ++ [name])))
  r.page name parts.flatten

/-- The page of a template that is included inside the templates of `chain`, while `levels` more
levels of includes are allowed. -/
def included : (levels : Nat) → (chain : List String) → (name : String) → Render Text
  | 0, chain, name => do
    checkInclusion chain name
    throw (.inclusion name (.nestedDeeper r.options.maxIncludeDepth))
  | levels + 1, chain, name => do
    checkInclusion chain name
    let text ← r.source name
    r.renderSource (included levels) chain name text.toList

/-- The page of a template that is not included by another one. -/
def renderRoot (name : String) (source : Text) : Render Text :=
  r.renderSource (r.included r.options.maxIncludeDepth) [] name source

/-- Passes the page through the formatter if the settings ask for it. -/
def finish (page : String) : Except TemplateError String :=
  if r.options.formatOutput then
    match r.formatter with
    | some format => format page
    | none => .error (.format "output formatting requested but no formatter is configured")
  else .ok page

/-- The name of a template that is given as text. -/
def stringTemplate : String := "<string>"

/-- Renders a text. -/
def renderString (text : String) : Render String := do
  let page ← r.renderRoot stringTemplate text.toList
  r.finish (String.ofList page)

/-- Renders the template of a name. -/
def renderFile (name : String) : Render String := do
  let text ← r.source name
  let page ← r.renderRoot name text.toList
  r.finish (String.ofList page)

/-- Runs a rendering in a new context made of some data; the old context comes back afterwards. -/
def withData {α : Type} (data : Data) (body : Render α) : Render α :=
  ExceptT.mk fun s =>
    let clock := s.clock.tick
    match Context.ofData s.clock.now data with
    | .error fault => (.error (.data fault), { s with clock })
    | .ok context =>
      let (result, after) := body.run { s with context, clock }
      (result, { after with context := s.context })

end Renderer

end PageTemplate
