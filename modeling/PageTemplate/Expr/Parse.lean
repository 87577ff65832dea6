/-
The grammar of expressions, by descent. `or` binds weakest, then `and`, `not`, one comparison, and
attributes; parentheses and lengths hold a whole expression again. Each part is a function of the
symbols that still have to be read; the nesting of parentheses is bounded by a depth, for which
the number of symbols is always enough.
-/
import PageTemplate.Expr.Symbol

namespace PageTemplate.Expr

/-- A part of the grammar: from the symbols to be read to what was read and the symbols after it. -/
abbrev Part (α : Type) := List Symbol → Except SyntaxFault (α × List Symbol)

/-- Words that cannot be names. -/
def isReserved (word : String) : Bool :=
  word = "and" || word = "or" || word = "not" || word = "in"

/-- Words that stand for a value. -/
def wordValue? : String → Option Value
  | "true" | "True" => some (.bool true)
  | "false" | "False" => some (.bool false)
  | "none" | "None" | "null" => some .null
  | _ => none

/-- The symbols after a closing parenthesis. -/
def closing : List Symbol → Except SyntaxFault (List Symbol)
  | .closeParen :: rest => .ok rest
  | found :: _ => .error (.expectedSymbol .closeParen (some found))
  | [] => .error (.expectedSymbol .closeParen none)

/-- A name that is not reserved. -/
def target : Part String
  | .name n :: rest => if isReserved n then .error (.expectedName (some (.name n))) else .ok (n, rest)
  | found :: _ => .error (.expectedName (some found))
  | [] => .error (.expectedName none)

/-- The attributes after an operand. -/
def attributes (base : Expr) : Part Expr
  | .dot :: .name n :: rest =>
    if isReserved n then .error (.expectedName (some (.name n)))
    else attributes (.attribute base n) rest
  | .dot :: found :: _ => .error (.expectedName (some found))
  | [.dot] => .error (.expectedName none)
  | rest => .ok (base, rest)

/-- A literal, a name, a length or an expression in parentheses. -/
def atom (inner : Part Expr) : Part Expr
  | .int i :: rest => .ok (.literal (.int i), rest)
  | .float x :: rest => .ok (.literal (.float x), rest)
  | .str s :: rest => .ok (.literal (.str s), rest)
  | .minus :: .int i :: rest => .ok (.literal (.int (-i)), rest)
  | .minus :: .float x :: rest => .ok (.literal (.float (-x)), rest)
  | .minus :: _ => .error .loneSign
  | .openParen :: rest => do
    let (e, rest) ← inner rest
    return (e, ← closing rest)
  | .name n :: rest =>
    match wordValue? n, n, rest with
    | some v, _, rest => .ok (.literal v, rest)
    | none, "len", .openParen :: rest => do
      let (e, rest) ← inner rest
      return (.length e, ← closing rest)
    | none, n, rest => if isReserved n then .error (.unexpectedWord n) else .ok (.name n, rest)
  | found :: _ => .error (.unexpectedSymbol found)
  | [] => .error .unexpectedEnd

/-- An atom with its attributes. -/
def operand (inner : Part Expr) (symbols : List Symbol) :
    Except SyntaxFault (Expr × List Symbol) := do
  let (base, rest) ← atom inner symbols
  attributes base rest

/-- What the next symbols compare by, if they do. -/
def comparison? : List Symbol → Option (Comparison × List Symbol)
  | .relation r :: rest => some (.relation r, rest)
  | .name "in" :: rest => some (.within, rest)
  | .name "not" :: .name "in" :: rest => some (.notWithin, rest)
  | _ => none

/-- An operand, or two compared with each other. -/
def comparison (inner : Part Expr) (symbols : List Symbol) :
    Except SyntaxFault (Expr × List Symbol) := do
  let (left, rest) ← operand inner symbols
  match comparison? rest with
  | none => return (left, rest)
  | some (c, rest) =>
    let (right, rest) ← operand inner rest
    return (.compare left c right, rest)

/-- A comparison behind any number of `not`s. -/
def negation (inner : Part Expr) : Part Expr
  | .name "not" :: rest => (fun (e, rest) => (.not e, rest)) <$> negation inner rest
  | symbols => comparison inner symbols

/-- The rest of a chain of operands joined by `word`, to the left first. `bound` bounds the number
of operands to come. -/
def chainRest (word : String) (join : Expr → Expr → Expr) (part : Part Expr) :
    Nat → Expr → Part Expr
  | bound + 1, left, .name n :: rest =>
    if n = word then do
      let (right, rest) ← part rest
      chainRest word join part bound (join left right) rest
    else .ok (left, .name n :: rest)
  | _, left, rest => .ok (left, rest)

/-- Operands joined by `word`, to the left first. -/
def chain (word : String) (join : Expr → Expr → Expr) (part : Part Expr)
    (symbols : List Symbol) : Except SyntaxFault (Expr × List Symbol) := do
  let (left, rest) ← part symbols
  chainRest word join part rest.length left rest

/-- An expression whose parentheses nest less deep than `depth`. Without symbols there is none, so
a depth equal to the number of symbols never runs out. -/
def expression : Nat → Part Expr
  | 0, _ => .error .unexpectedEnd
  | depth + 1, symbols => chain "or" .or (chain "and" .and (negation (expression depth))) symbols

/-- Accepts the end of the symbols. -/
def finished {α : Type} : α × List Symbol → Except SyntaxFault α
  | (a, []) => .ok a
  | (_, found :: _) => .error (.unexpectedSymbol found)

/-- The expression that the symbols are. -/
def ofSymbols (symbols : List Symbol) : Except SyntaxFault Expr :=
  expression symbols.length symbols >>= finished

/-- The further names of a loop header, each behind a comma. -/
def moreTargets : Part (List String)
  | .comma :: .name n :: rest =>
    if isReserved n then .error (.expectedName (some (.name n)))
    else (fun (names, rest) => (n :: names, rest)) <$> moreTargets rest
  | .comma :: found :: _ => .error (.expectedName (some found))
  | [.comma] => .error (.expectedName none)
  | rest => .ok ([], rest)

/-- The loop header that the symbols are: names, the word `in`, and an expression. -/
def headerOfSymbols (symbols : List Symbol) : Except SyntaxFault LoopHeader := do
  let (first, rest) ← target symbols
  let (more, rest) ← moreTargets rest
  match rest with
  | .name "in" :: rest =>
    let source ← ofSymbols rest
    return ⟨first :: more, source⟩
  | _ => .error .expectedIn

/-- The expression that a text is. -/
def parse (text : Text) : Except SyntaxFault Expr := Symbol.read text >>= ofSymbols

/-- The loop header that a text is. -/
def parseHeader (text : Text) : Except SyntaxFault LoopHeader := Symbol.read text >>= headerOfSymbols

end PageTemplate.Expr
