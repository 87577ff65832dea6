/-
What can go wrong with a template, as causes; the words for each cause are in one place.
-/
import PageTemplate.Data
import PageTemplate.Expr.Symbol

namespace PageTemplate

/-- Why a control line is no statement. -/
inductive GrammarFault where
  | noStatement
  | unknownStatement (word : String)
  | missingCondition (word : String)
  | unwantedCondition (word : String)
  deriving DecidableEq, Repr

def GrammarFault.message : GrammarFault → String
  | .noStatement => "statement not found"
  | .unknownStatement word => s!"statement `{word}` not found"
  | .missingCondition word => s!"statement `{word}` requires a condition"
  | .unwantedCondition word => s!"statement `{word}` does not take a condition"

/-- The two kinds of block. -/
inductive BlockKind where
  | conditional
  | loop
  deriving DecidableEq, Repr

def BlockKind.word : BlockKind → String
  | .conditional => "if"
  | .loop => "for"

/-- Why statements do not make a program, or a program does not run. -/
inductive EvaluationFault where
  | invalidExpression (source : String) (fault : SyntaxFault)
  | unclosedBlock (kind : BlockKind)
  | elifAfterElse
  | elifOutsideIf
  | secondElse
  | elseOutsideIf
  | endOutsideBlock
  | noLength (kind : Kind)
  | incomparable (left right : Kind)
  | notSearchable (needle haystack : Kind)
  | notIterable (kind : Kind)
  | cannotUnpack (kind : Kind) (names : Nat)
  | valuesNestedDeeper (levels : Nat)

def EvaluationFault.message : EvaluationFault → String
  | .invalidExpression source fault => s!"invalid expression `{source}`: {fault.message}"
  | .unclosedBlock kind => s!"`{kind.word}` block is never closed with `end`"
  | .elifAfterElse => "`elif` after `else`"
  | .elifOutsideIf => "`elif` outside of an `if` block"
  | .secondElse => "duplicate `else`"
  | .elseOutsideIf => "`else` outside of an `if` block"
  | .endOutsideBlock => "`end` without an open block"
  | .noLength kind => s!"{kind.name} has no length"
  | .incomparable left right => s!"cannot compare {left.name} with {right.name}"
  | .notSearchable needle haystack =>
    s!"`in` is not supported between {needle.name} and {haystack.name}"
  | .notIterable kind => s!"{kind.name} is not iterable"
  | .cannotUnpack kind names => s!"cannot unpack {kind.name} into {names} names"
  | .valuesNestedDeeper levels => s!"multi-line values nested deeper than {levels} levels"

/-- Why a template cannot be included. -/
inductive InclusionFault where
  | missingName
  | cycle (chain : List String) (name : String)
  | nestedDeeper (includes : Nat)
  deriving DecidableEq, Repr

def InclusionFault.message : InclusionFault → String
  | .missingName => "missing template name"
  | .cycle chain name => "include cycle: " ++ " -> ".intercalate (chain ++ [name])
  | .nestedDeeper includes => s!"nesting deeper than {includes} includes"

/-- Why settings are refused. -/
inductive OptionsFault where
  | malformed
  | sectionNotFound (name : String)
  | badBufferName (name : String)
  | zeroDepth
  deriving DecidableEq, Repr

def OptionsFault.message : OptionsFault → String
  | .malformed => "Config error"
  | .sectionNotFound name => s!"Config error: section {name} not found"
  | .badBufferName name => s!"Config error: buffer_name `{name}` must match [a-z_]+"
  | .zeroDepth => "Config error: max_include_depth must be at least 1"

/-- Why a file operation failed. -/
inductive FileFault where
  | notFound
  | exists
  | notADirectory
  | isADirectory
  | nameTooLong
  | invalidText
  | zeroInPath
  | permissionDenied
  /-- A failure that only the system can explain. -/
  | other (explanation : String)
  deriving DecidableEq, Repr

def FileFault.message : FileFault → String
  | .notFound => "No such file or directory (os error 2)"
  | .exists => "File exists (os error 17)"
  | .notADirectory => "Not a directory (os error 20)"
  | .isADirectory => "Is a directory (os error 21)"
  | .nameTooLong => "File name too long (os error 36)"
  | .invalidText => "stream did not contain valid UTF-8"
  | .zeroInPath => "file name contained an unexpected NUL byte"
  | .permissionDenied => "Permission denied (os error 13)"
  | .other explanation => explanation

/-- Everything that loading, compiling, evaluating and saving can fail with. -/
inductive TemplateError where
  | grammar (line : Nat) (content : String) (fault : GrammarFault)
  | filterNotFound (name : String)
  | evaluation (fault : EvaluationFault)
  | templateNotFound (name : String)
  | inclusion (name : String) (fault : InclusionFault)
  | data (fault : DataFault)
  | format (reason : String)
  | options (fault : OptionsFault)
  | file (path : String) (fault : FileFault)

/-- The words of an error. -/
def TemplateError.message : TemplateError → String
  | .grammar line content fault => s!"Grammar error at line {line}: {fault.message}: `{content}`"
  | .filterNotFound name => s!"Filter {name} not found"
  | .evaluation fault => s!"Evaluation error: {fault.message}"
  | .templateNotFound name => s!"Template not found: {name}"
  | .inclusion name fault => s!"Include error in '{name}': {fault.message}"
  | .data fault => s!"Value error: {fault.message}"
  | .format reason => s!"Format error: {reason}"
  | .options fault => fault.message
  | .file path fault => s!"I/O error on {path}: {fault.message}"

end PageTemplate
