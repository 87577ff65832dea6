/-
The symbols that an expression is written in: names, numbers, strings in either quote, signs and
punctuation, with spaces and tabs between them.
-/
import PageTemplate.Decimal.Numeral
import PageTemplate.Expr.Basic
import PageTemplate.Text.Letter

namespace PageTemplate

/-- A symbol of an expression. -/
inductive Symbol where
  | name (s : String)
  | int (i : Int64)
  | float (x : Float)
  | str (s : String)
  | relation (r : Relation)
  | openParen
  | closeParen
  | dot
  | comma
  | minus

/-- A symbol as a message shows it. -/
def Symbol.shown : Symbol → Text
  | .name s => shownCall "Ident" [Text.shown s.toList]
  | .int i => shownCall "Int" [(Value.int i).text]
  | .float x => shownCall "Float" [(Value.float x).text]
  | .str s => shownCall "Str" [Text.shown s.toList]
  | .relation r => shownCall "Op" [Text.shown r.sign.toList]
  | .openParen => "LParen".toList
  | .closeParen => "RParen".toList
  | .dot => "Dot".toList
  | .comma => "Comma".toList
  | .minus => "Minus".toList

/-- Why a text is no expression. -/
inductive SyntaxFault where
  | unexpectedChar (c : Char)
  | unterminatedString
  | badNumber (text : String)
  | unexpectedSymbol (s : Symbol)
  | unexpectedWord (word : String)
  | unexpectedEnd
  | expectedSymbol (wanted : Symbol) (found : Option Symbol)
  | expectedName (found : Option Symbol)
  | expectedIn
  | loneSign

/-- The words of a fault. -/
def SyntaxFault.message : SyntaxFault → String
  | .unexpectedChar c => s!"unexpected `{c}`"
  | .unterminatedString => "unterminated string"
  | .badNumber text => s!"bad number `{text}`"
  | .unexpectedSymbol s => s!"unexpected {String.ofList s.shown}"
  | .unexpectedWord word => s!"unexpected `{word}`"
  | .unexpectedEnd => "unexpected end"
  | .expectedSymbol wanted none => s!"expected {String.ofList wanted.shown}"
  | .expectedSymbol wanted (some found) =>
    s!"expected {String.ofList wanted.shown}, found {String.ofList found.shown}"
  | .expectedName none => "expected a name"
  | .expectedName (some found) => s!"expected a name, found {String.ofList found.shown}"
  | .expectedIn => "expected `in`"
  | .loneSign => "`-` must precede a number"

namespace Symbol

/-- A character that can begin a name. -/
def startsName (c : Char) : Bool := Text.isLetter c || c = '_'

/-- A character that can stand inside a name. -/
def continuesName (c : Char) : Bool := Text.isLetterOrNumber c || c = '_'

/-- A character that can stand inside a number. -/
def continuesNumber (c : Char) : Bool := c.isDigit || c = '.'

/-- The number that a run of digits and points is: a double if there is a point in it, else an
integer of at most 63 bits. -/
def number (run : Text) : Except SyntaxFault Symbol :=
  if '.' ∈ run then
    match Numeral.read? run with
    | some numeral => .ok (.float numeral.toFloat)
    | none => .error (.badNumber (String.ofList run))
  else
    let n := Numeral.ofDigits run
    if n ≤ maxInt then .ok (.int (Int64.ofNat n)) else .error (.badNumber (String.ofList run))

/-- The symbol that begins with the character `c`, if `c` is no blank, and what follows it. -/
def next (c : Char) (text : Text) : Except SyntaxFault (Option Symbol × Text) :=
  match c with
  | ' ' | '\t' => .ok (none, text)
  | '(' => .ok (some .openParen, text)
  | ')' => .ok (some .closeParen, text)
  | '.' => .ok (some .dot, text)
  | ',' => .ok (some .comma, text)
  | '-' => .ok (some .minus, text)
  | '=' =>
    match text with
    | '=' :: text => .ok (some (.relation .eq), text)
    | _ => .error (.unexpectedChar '=')
  | '!' =>
    match text with
    | '=' :: text => .ok (some (.relation .ne), text)
    | _ => .error (.unexpectedChar '!')
  | '<' =>
    match text with
    | '=' :: text => .ok (some (.relation .le), text)
    | _ => .ok (some (.relation .lt), text)
  | '>' =>
    match text with
    | '=' :: text => .ok (some (.relation .ge), text)
    | _ => .ok (some (.relation .gt), text)
  | c =>
    if c = '\'' ∨ c = '"' then
      match text.dropWhile (· ≠ c) with
      | [] => .error .unterminatedString
      | _ :: rest => .ok (some (.str (String.ofList (text.takeWhile (· ≠ c)))), rest)
    else if c.isDigit then do
      let symbol ← number (c :: text.takeWhile continuesNumber)
      return (some symbol, text.dropWhile continuesNumber)
    else if startsName c then
      .ok (some (.name (String.ofList (c :: text.takeWhile continuesName))),
        text.dropWhile continuesName)
    else .error (.unexpectedChar c)

/-- What follows a symbol is part of what followed its first character. -/
theorem length_le_of_next {c : Char} {text rest : Text} {symbol : Option Symbol}
    (h : next c text = .ok (symbol, rest)) : rest.length ≤ text.length := by
  have number_case : ∀ {run after : Text},
      (do let symbol ← number run; return (some symbol, after) :
        Except SyntaxFault (Option Symbol × Text)) = .ok (symbol, rest) → rest = after := by
    intro run after h
    cases hn : number run with
    | error f => simp [hn, bind, Except.bind] at h
    | ok s =>
      simp only [hn, bind, Except.bind, pure, Except.pure, Except.ok.injEq, Prod.mk.injEq] at h
      exact h.2.symm
  unfold next at h
  split at h <;> try (simp only [Except.ok.injEq, Prod.mk.injEq] at h; obtain ⟨-, rfl⟩ := h; simp)
  all_goals
    split at h <;> try (simp only [Except.ok.injEq, Prod.mk.injEq] at h; obtain ⟨-, rfl⟩ := h; simp)
  all_goals try contradiction
  · split at h
    · cases h
    · rename_i hd
      simp only [Except.ok.injEq, Prod.mk.injEq] at h
      obtain ⟨-, rfl⟩ := h
      have := (List.dropWhile_suffix (fun x => decide (x ≠ c)) (l := text)).length_le
      rw [hd] at this
      simp at this
      omega
  · split at h
    · rw [number_case h]; exact (List.dropWhile_suffix _).length_le
    · split at h
      · simp only [Except.ok.injEq, Prod.mk.injEq] at h
        obtain ⟨-, rfl⟩ := h
        exact (List.dropWhile_suffix _).length_le
      · cases h

/-- The symbols of a text, or the first fault in it. -/
def read : Text → Except SyntaxFault (List Symbol)
  | [] => .ok []
  | c :: text =>
    match _h : next c text with
    | .error fault => .error fault
    | .ok (symbol, rest) => (symbol.toList ++ ·) <$> read rest
termination_by text => text.length
decreasing_by
  have := length_le_of_next _h
  simp
  omega

end Symbol

end PageTemplate
