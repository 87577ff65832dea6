/-
Statements: one line of a template each. A line with a tag between `{%` and `%}` controls a block;
every other line is literal and is appended to the output. Each statement carries its own indent in
the listing and the indent of the line after it.
-/
import PageTemplate.Error
import PageTemplate.Text.Blank

namespace PageTemplate

/-- The words of control lines. -/
inductive Keyword where
  | ifBlock
  | elifBranch
  | elseBranch
  | forLoop
  | endBlock
  deriving DecidableEq, Repr

namespace Keyword

def word : Keyword → String
  | .ifBlock => "if"
  | .elifBranch => "elif"
  | .elseBranch => "else"
  | .forLoop => "for"
  | .endBlock => "end"

def all : List Keyword := [.ifBlock, .elifBranch, .elseBranch, .forLoop, .endBlock]

/-- The keyword of a word. -/
def named? (word : String) : Option Keyword := all.find? (·.word = word)

/-- Does the keyword take a condition? Those that do, need one. -/
def takesCondition : Keyword → Bool
  | .ifBlock | .elifBranch | .forLoop => true
  | .elseBranch | .endBlock => false

/-- How far the line of the keyword is moved against the running indent. -/
def ownShift : Keyword → Int32
  | .ifBlock | .forLoop => 0
  | .elifBranch | .elseBranch | .endBlock => -2

/-- How far the line after the keyword is moved against the running indent. -/
def nextShift : Keyword → Int32
  | .ifBlock | .forLoop => 2
  | .elifBranch | .elseBranch => 0
  | .endBlock => -2

end Keyword

/-- A line that is appended to the output. -/
structure Literal where
  content : Text
  indent : Int32
  nextIndent : Int32
  buffer : String
  deriving DecidableEq, Repr

/-- A line that opens, divides or closes a block. -/
structure Control where
  keyword : Keyword
  condition : Option Text
  indent : Int32
  nextIndent : Int32
  deriving DecidableEq, Repr

/-- One line of a template. -/
inductive Statement where
  | literal (l : Literal)
  | control (c : Control)
  deriving DecidableEq, Repr

/-- What a block without lines holds in a listing; also the content of `end`. -/
def emptyBody : Text := ['.', '.', '.']

/-- The spaces in front of a line of a listing. -/
def indentation (indent : Int32) : Text := List.replicate indent.toInt.toNat ' '

/-- The header that a control line has in a listing. -/
def Control.content (c : Control) : Text :=
  match c.keyword, c.condition with
  | .endBlock, _ => emptyBody
  | keyword, some condition => keyword.word.toList ++ ' ' :: condition ++ [':']
  | keyword, none => keyword.word.toList ++ [':']

namespace Statement

def indent : Statement → Int32
  | .literal l => l.indent
  | .control c => c.indent

def nextIndent : Statement → Int32
  | .literal l => l.nextIndent
  | .control c => c.nextIndent

end Statement

end PageTemplate
