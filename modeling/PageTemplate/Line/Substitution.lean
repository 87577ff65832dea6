/-
Substitution of a line: each placeholder whose name the context knows is replaced by the text of
its value; the others are deferred and looked up again when the program runs. Filters are looked
up in either case, so an unknown one is found before anything is shown.
-/
import PageTemplate.Context
import PageTemplate.Filter
import PageTemplate.Line.Placeholder

namespace PageTemplate

/-- A placeholder whose name was unknown when its line was substituted. -/
structure Deferred where
  raw : Text
  name : String
  attr : Option String
  filters : List Filter
  deriving DecidableEq, Repr

/-- What a deferred placeholder is shown as if its name stays unknown: its own text without the
first and the last character. -/
def Deferred.stripped (d : Deferred) : Text := d.raw.tail.dropLast

/-- A part of a substituted line. -/
inductive Segment where
  | text (t : Text)
  | deferred (d : Deferred)
  deriving DecidableEq, Repr

namespace Segment

/-- The segment as it is shown while its name is unknown. -/
def shown : Segment → Text
  | .text t => t
  | .deferred d => d.stripped

/-- The segment as source, in which a deferred placeholder is whole again. -/
def source : Segment → Text
  | .text t => t
  | .deferred d => d.raw

/-- The same segments with neighbouring texts joined. -/
def joined : List Segment → List Segment
  | [] => []
  | .text t :: rest =>
    match joined rest with
    | .text u :: rest => .text (t ++ u) :: rest
    | rest => .text t :: rest
  | segment :: rest => segment :: joined rest

end Segment

/-- The text that a placeholder shows for a value: that of the attribute if the value has it, else
of the whole value, through the filters. -/
def Value.through (value : Value) (attr : Option String) (filters : List Filter) : Text :=
  Filter.applyAll filters (((attr.bind value.attribute?).getD value).text)

/-- What became of a piece of a line. -/
inductive Resolved where
  | plain (t : Text)
  | value (t : Text)
  | deferred (d : Deferred)

namespace Resolved

def segment : Resolved → Segment
  | .plain t => .text t
  | .value t => .text t
  | .deferred d => .deferred d

/-- The text of a value that was put in. -/
def value? : Resolved → Option Text
  | .value t => some t
  | _ => none

end Resolved

/-- Looks a piece up in the context. -/
def Piece.resolve (ctx : Context) : Piece → Except TemplateError Resolved
  | .text t => .ok (.plain t)
  | .placeholder p => do
    let filters ← p.filters.mapM Filter.named
    match ctx.get? p.name with
    | some value => return .value (value.through p.attr filters)
    | none => return .deferred ⟨p.raw, p.name, p.attr, filters⟩

/-- A line after substitution. -/
structure Substitution where
  segments : List Segment
  /-- The text of the last value that was put in. -/
  lastValue : Option Text
  /-- Did a value that was put in have a line break? -/
  multiline : Bool

namespace Substitution

/-- Substitutes the placeholders of a line. -/
def ofLine (ctx : Context) (line : Text) : Except TemplateError Substitution := do
  let resolved ← (Piece.ofLine line).mapM (Piece.resolve ctx)
  let values := resolved.filterMap Resolved.value?
  return {
    segments := Segment.joined (resolved.map Resolved.segment)
    lastValue := values.getLast?
    multiline := values.any ('\n' ∈ ·) }

/-- The line as it is shown while deferred names are unknown. -/
def text (s : Substitution) : Text := s.segments.flatMap Segment.shown

/-- The line as source that can be compiled again. -/
def source (s : Substitution) : Text := s.segments.flatMap Segment.source

end Substitution

end PageTemplate
