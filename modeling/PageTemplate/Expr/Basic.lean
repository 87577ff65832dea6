/-
The expressions of conditions and loop headers.
-/
import PageTemplate.Text.Quoted
import PageTemplate.Value.Written

namespace PageTemplate

/-- A relation that is written by a sign. -/
inductive Relation where
  | eq
  | ne
  | lt
  | le
  | gt
  | ge
  deriving DecidableEq, Repr

/-- The sign of a relation. -/
def Relation.sign : Relation → String
  | .eq => "=="
  | .ne => "!="
  | .lt => "<"
  | .le => "<="
  | .gt => ">"
  | .ge => ">="

/-- What two operands are compared by. -/
inductive Comparison where
  | relation (r : Relation)
  | within
  | notWithin
  deriving DecidableEq, Repr

/-- An expression over the names of a page. -/
inductive Expr where
  | literal (v : Value)
  | name (n : String)
  | attribute (base : Expr) (name : String)
  | length (e : Expr)
  | not (e : Expr)
  | and (left right : Expr)
  | or (left right : Expr)
  | compare (left : Expr) (comparison : Comparison) (right : Expr)

/-- The header of a loop: the names that each item is bound to, and what the items come from. -/
structure LoopHeader where
  targets : List String
  source : Expr

/-! ## The form shown in listings -/

/-- The word for a comparison in a listing. -/
def Comparison.shown : Comparison → String
  | .relation .eq => "Eq"
  | .relation .ne => "Ne"
  | .relation .lt => "Lt"
  | .relation .le => "Le"
  | .relation .gt => "Gt"
  | .relation .ge => "Ge"
  | .within => "In"
  | .notWithin => "NotIn"

/-- A constructor and its arguments, in a listing. -/
def shownCall (head : String) (arguments : List Text) : Text :=
  head.toList ++ '(' :: Value.separator.intercalate arguments ++ [')']

mutual

/-- A value in a listing: its kind and content. -/
def Value.shown : Value → Text
  | .null => "Null".toList
  | .bool b => shownCall "Bool" [(Value.bool b).text]
  | .int i => shownCall "Int" [(Value.int i).text]
  | .float x => shownCall "Float" [(Value.float x).text]
  | .str s => shownCall "Str" [Text.shown s.toList]
  | .list items => shownCall "List" ['[' :: Value.separator.intercalate (Value.shownItems items) ++ [']']]
  | .map fields =>
    shownCall "Map" ['{' :: Value.separator.intercalate (Value.shownFields fields) ++ ['}']]

def Value.shownItems : List Value → List Text
  | [] => []
  | item :: rest => item.shown :: Value.shownItems rest

def Value.shownFields : List (String × Value) → List Text
  | [] => []
  | (key, value) :: rest =>
    (Text.shown key.toList ++ ':' :: ' ' :: value.shown) :: Value.shownFields rest

end

/-- An expression in a listing, as nested constructors. -/
def Expr.shown : Expr → Text
  | .literal v => shownCall "Literal" [v.shown]
  | .name n => shownCall "Name" [Text.shown n.toList]
  | .attribute base n => shownCall "Attr" [base.shown, Text.shown n.toList]
  | .length e => shownCall "Len" [e.shown]
  | .not e => shownCall "Not" [e.shown]
  | .and left right => shownCall "And" [left.shown, right.shown]
  | .or left right => shownCall "Or" [left.shown, right.shown]
  | .compare left c right =>
    shownCall "Compare" [left.shown, c.shown.toList, right.shown]

end PageTemplate
