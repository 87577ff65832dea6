/-
Filters: named transformations of a text. The set is closed.
-/
import PageTemplate.Error
import PageTemplate.Text.Blank
import PageTemplate.Text.Case

namespace PageTemplate

/-- A transformation that a placeholder can ask for. -/
inductive Filter where
  | lower
  | upper
  | escape
  | asString
  | strip
  deriving DecidableEq, Repr

namespace Filter

def name : Filter → String
  | .lower => "lower"
  | .upper => "upper"
  | .escape => "escape"
  | .asString => "as_string"
  | .strip => "strip"

/-- All filters, in the order in which they are listed. -/
def all : List Filter := [.lower, .upper, .escape, .asString, .strip]

/-- The filter of a name. -/
def named (name : String) : Except TemplateError Filter :=
  match all.find? (·.name = name) with
  | some filter => .ok filter
  | none => .error (.filterNotFound name)

/-- A character with angle brackets written as entities. -/
def escapeChar : Char → Text
  | '<' => "&lt;".toList
  | '>' => "&gt;".toList
  | c => [c]

/-- What a filter makes of a text. -/
def apply : Filter → Text → Text
  | .lower, text => text.lower
  | .upper, text => text.upper
  | .escape, text => text.flatMap escapeChar
  | .asString, text => text
  | .strip, text => text.trim

/-- Applies filters from left to right. -/
def applyAll (filters : List Filter) (text : Text) : Text :=
  filters.foldl (fun text filter => filter.apply text) text

end Filter

end PageTemplate
