/-
The value of an expression, in an environment that gives values to names. Unknown names and
attributes are null; `and` and `or` give one of their operands and leave the second one alone where
the first decides.
-/
import PageTemplate.Error
import PageTemplate.Value.Order

namespace PageTemplate

/-- Is the needle an item of a list, a key of a map, or a part of a string? -/
def Value.contains (haystack needle : Value) : Except EvaluationFault Bool :=
  match haystack, needle with
  | .list items, needle => .ok (items.any (·.alike needle))
  | .map fields, .str key => .ok (Fields.get? key fields).isSome
  | .str s, .str part => .ok (Text.contains part.toList s.toList)
  | haystack, needle => .error (.notSearchable needle.kind haystack.kind)

/-- Does an order, which equal values have too, meet a relation? -/
def Relation.accepts : Relation → Ordering → Bool
  | .eq, o => o == .eq
  | .ne, o => o != .eq
  | .lt, o => o == .lt
  | .le, o => o != .gt
  | .gt, o => o == .gt
  | .ge, o => o != .lt

/-- The outcome of a comparison of two values. -/
def Comparison.holds (comparison : Comparison) (left right : Value) :
    Except EvaluationFault Bool :=
  match comparison with
  | .relation .eq => .ok (left.alike right)
  | .relation .ne => .ok !left.alike right
  | .relation r =>
    match left.compare? right with
    | some order => .ok (r.accepts order)
    | none => .error (.incomparable left.kind right.kind)
  | .within => right.contains left
  | .notWithin => (!·) <$> right.contains left

/-- The value of an expression. -/
def Expr.eval (env : String → Option Value) : Expr → Except EvaluationFault Value
  | .literal v => .ok v
  | .name n => .ok ((env n).getD .null)
  | .attribute base n => do
    let v ← base.eval env
    return (v.attribute? n).getD .null
  | .length e => do
    let v ← e.eval env
    match v.length? with
    | some n => return .ofNat n
    | none => .error (.noLength v.kind)
  | .not e => do
    let v ← e.eval env
    return .bool !v.isTruthy
  | .and left right => do
    let v ← left.eval env
    if v.isTruthy then right.eval env else return v
  | .or left right => do
    let v ← left.eval env
    if v.isTruthy then return v else right.eval env
  | .compare left c right => do
    let l ← left.eval env
    let r ← right.eval env
    return .bool (← c.holds l r)

end PageTemplate
