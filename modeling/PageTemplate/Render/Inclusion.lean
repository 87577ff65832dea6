/-
Include directives: `{% include name %}` anywhere in the source of a template, from the opening
words to the next closing mark.
-/
import PageTemplate.Text.Blank

namespace PageTemplate

/-- A part of the source of a template. -/
inductive SourcePart where
  | text (t : Text)
  | inclusion (name : Text)
  deriving DecidableEq, Repr

namespace SourcePart

/-- How a directive begins. -/
def opening : Text := ['{', '%', ' '] ++ "include ".toList

/-- How a directive ends. -/
def closing : Text := [' ', '%', '}']

/-- The directive that comes first in a source: the text before it, the trimmed name, and the source
after it. -/
def first? (source : Text) : Option (Text × Text × Text) := do
  let (before, rest) ← Text.cut? opening source
  let (name, after) ← Text.cut? closing rest
  return (before, name.trim, after)

theorem length_lt_of_first? {source before name after : Text}
    (h : first? source = some (before, name, after)) : after.length < source.length := by
  simp only [first?, Option.bind_eq_bind, Option.bind_eq_some_iff, Option.pure_def,
    Option.some.injEq, Prod.mk.injEq] at h
  obtain ⟨⟨before', rest⟩, h₁, ⟨name', after'⟩, h₂, -, -, rfl⟩ := h
  dsimp only at h₂ ⊢
  have e₁ := congrArg List.length (Text.eq_append_of_cut? h₁)
  have e₂ := congrArg List.length (Text.eq_append_of_cut? h₂)
  simp only [List.length_append, closing, List.length_cons] at e₁ e₂
  omega

/-- The parts of a source: its directives and the text around them. -/
def ofSource (source : Text) : List SourcePart :=
  match _h : first? source with
  | some (before, name, after) => .text before :: .inclusion name :: ofSource after
  | none => [.text source]
termination_by source.length
decreasing_by exact length_lt_of_first? _h

/-- The names that the directives of a source ask for. -/
def inclusions (source : Text) : List String :=
  (ofSource source).filterMap fun part =>
    match part with
    | .inclusion name => some (String.ofList name)
    | .text _ => none

end SourcePart

end PageTemplate
