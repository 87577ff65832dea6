/-
The two quoted forms of a text. A listing quotes with a backslash before quotes and backslashes
only; a diagnostic also writes line breaks, tabs and zero by letter and every hidden character by
its number, so that it stays on one line.
-/
import PageTemplate.Text.Visible

namespace PageTemplate.Text

/-- The text in quotes, with a backslash before each quote and each backslash. -/
def quoted (text : Text) : Text :=
  '"' :: text.flatMap (fun c => if c = '"' ∨ c = '\\' then ['\\', c] else [c]) ++ ['"']

/-- One character of a diagnostic. -/
def revealed (c : Char) : Text :=
  match c with
  | '"' => ['\\', '"']
  | '\\' => ['\\', '\\']
  | '\n' => ['\\', 'n']
  | '\r' => ['\\', 'r']
  | '\t' => ['\\', 't']
  | '\x00' => ['\\', '0']
  | c => if isVisible c then [c] else '\\' :: 'u' :: '{' :: Nat.toDigits 16 c.toNat ++ ['}']

/-- The text in quotes, as a diagnostic shows it. -/
def shown (text : Text) : Text := '"' :: text.flatMap revealed ++ ['"']

end PageTemplate.Text
