/-
The settings of a renderer.
-/
import PageTemplate.Line.Compile

namespace PageTemplate

/-- Settings, with the values that hold where nothing is said. -/
structure Options where
  /-- The directory that templates are read from. -/
  templatesPath : String := "templates"
  /-- The name of the output. -/
  bufferName : String := defaultBuffer
  /-- The bound on nested includes, and on values of several lines inside each other. -/
  maxIncludeDepth : Nat := 16
  /-- Are pages passed through the formatter? -/
  formatOutput : Bool := false
  deriving DecidableEq, Repr

namespace Options

/-- A character of a buffer name. -/
def isBufferChar (c : Char) : Bool := ('a' ≤ c && c ≤ 'z') || c = '_'

/-- Refuses settings that no template could be rendered with. -/
def validate (options : Options) : Except OptionsFault Options :=
  let name := options.bufferName.toList
  if name = [] ∨ !name.all isBufferChar then .error (.badBufferName options.bufferName)
  else if options.maxIncludeDepth = 0 then .error .zeroDepth
  else .ok options

end Options

end PageTemplate
