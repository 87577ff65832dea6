/-
Reading a TOML document from the start of a text, part by part: repetition, blanks, line ends,
comments and digits.
-/
import PageTemplate.Text.Basic

namespace PageTemplate.Toml

/-- Reads something from the start of a text and gives what follows it. -/
abbrev Part (α : Type) := Text → Option (α × Text)

/-- As many of a part, one after the other, as there are, but at most as many as `bound` has
characters. -/
def manyWithin {α : Type} (part : Part α) : (bound : Text) → Text → List α × Text
  | [], text => ([], text)
  | _ :: bound, text =>
    match part text with
    | none => ([], text)
    | some (a, rest) =>
      let (more, rest) := manyWithin part bound rest
      (a :: more, rest)

/-- As many of a part, one after the other, as there are. Each takes a character at least, so the text
itself bounds their number. -/
def many {α : Type} (part : Part α) (text : Text) : List α × Text := manyWithin part text text

/-- What follows an expected character. -/
def expect? (c : Char) : Text → Option Text
  | d :: rest => if c = d then some rest else none
  | [] => none

/-! ## Blanks, line ends and comments -/

def isBlank (c : Char) : Bool := c = ' ' || c = '\t'

def skipBlanks (text : Text) : Text := text.dropWhile isBlank

/-- What follows a line break, which is a line feed with or without a carriage return before it. -/
def newline? : Text → Option Text
  | '\n' :: rest => some rest
  | '\r' :: '\n' :: rest => some rest
  | _ => none

/-- A character that can stand inside a line: a tab, or any but the control characters. -/
def isInline (c : Char) : Bool := c = '\t' || (' ' ≤ c && c ≠ '\x7f')

/-- What follows a comment, if the text starts with one. -/
def skipComment : Text → Text
  | '#' :: rest => rest.dropWhile isInline
  | text => text

/-- What follows the end of a line, with the blanks and the comment before it. -/
def lineEnd? (text : Text) : Option Text :=
  match skipComment (skipBlanks text) with
  | [] => some []
  | rest => newline? rest

/-- What follows blanks, comments and line breaks. -/
def skipLines (text : Text) : Text :=
  skipBlanks (many (fun text => (newline? (skipComment (skipBlanks text))).map ((), ·)) text).2

/-! ## Digits -/

/-- A digit, or an underscore and a digit. -/
def furtherDigit? (isDigit : Char → Bool) : Part Char
  | '_' :: c :: rest => if isDigit c then some (c, rest) else none
  | c :: rest => if isDigit c then some (c, rest) else none
  | [] => none

/-- Digits with single underscores between them; the underscores are left out. -/
def digits? (isDigit : Char → Bool) : Part Text
  | c :: rest =>
    if isDigit c then
      let (more, rest) := many (furtherDigit? isDigit) rest
      some (c :: more, rest)
    else none
  | [] => none

/-- Decimal digits without a leading zero, other than zero alone. -/
def decimalDigits? : Part Text
  | '0' :: rest => some (['0'], rest)
  | text => digits? Char.isDigit text

def isHexDigit (c : Char) : Bool :=
  c.isDigit || ('a' ≤ c && c ≤ 'f') || ('A' ≤ c && c ≤ 'F')

/-- The value of a digit of a base up to sixteen. -/
def digitValue (c : Char) : Nat :=
  if c.isDigit then c.toNat - '0'.toNat
  else if 'a' ≤ c then c.toNat - 'a'.toNat + 10
  else c.toNat - 'A'.toNat + 10

/-- The value of digits of a base. -/
def valueOf (base : Nat) (digits : Text) : Nat :=
  digits.foldl (fun n c => base * n + digitValue c) 0

/-- A sign; without one, a number is not negative. -/
def sign : Text → Bool × Text
  | '-' :: rest => (true, rest)
  | '+' :: rest => (false, rest)
  | text => (false, text)

end PageTemplate.Toml
