/-
The strings of a TOML document: in quotes with escapes or in apostrophes without, and both also
over several lines.
-/
import PageTemplate.Toml.Scan

namespace PageTemplate.Toml

/-- The character of a number, if it has one. -/
def charOf? (n : Nat) : Option Char := if h : n.isValidChar then some (Char.ofNatAux n h) else none

/-- The character given by exactly so many hexadecimal digits. -/
def charNumber? (width : Nat) (text : Text) : Option (Char × Text) :=
  let ds := text.take width
  if ds.length = width ∧ ds.all isHexDigit then
    (charOf? (valueOf 16 ds)).map (·, text.drop width)
  else none

/-- A character written with a backslash. -/
def escape? : Part Char
  | '\\' :: 'b' :: rest => some ('\x08', rest)
  | '\\' :: 'f' :: rest => some ('\x0c', rest)
  | '\\' :: 'n' :: rest => some ('\n', rest)
  | '\\' :: 'r' :: rest => some ('\r', rest)
  | '\\' :: 't' :: rest => some ('\t', rest)
  | '\\' :: '"' :: rest => some ('"', rest)
  | '\\' :: '\\' :: rest => some ('\\', rest)
  | '\\' :: 'u' :: rest => charNumber? 4 rest
  | '\\' :: 'U' :: rest => charNumber? 8 rest
  | _ => none

/-- A character of a string in quotes. -/
def quotedChar? : Part Char
  | c :: rest =>
    if c = '\\' then escape? (c :: rest)
    else if isInline c ∧ c ≠ '"' then some (c, rest)
    else none
  | [] => none

/-- A string in quotes on one line. -/
def quotedString? (text : Text) : Option (String × Text) := do
  let (cs, rest) := many quotedChar? (← expect? '"' text)
  return (String.ofList cs, ← expect? '"' rest)

/-- A string in apostrophes on one line, in which nothing is escaped. -/
def literalString? (text : Text) : Option (String × Text) := do
  let rest ← expect? '\'' text
  let isContent c := isInline c && c ≠ '\''
  return (String.ofList (rest.takeWhile isContent), ← expect? '\'' (rest.dropWhile isContent))

/-- One or two quotes that do not end a string of several lines. -/
def innerQuotes? (quote : Char) (text : Text) : Option (Text × Text) :=
  let count := (text.takeWhile (· = quote)).length
  if count = 1 ∨ count = 2 then some (List.replicate count quote, text.drop count) else none

/-- What follows three quotes. -/
def tripleQuote? (quote : Char) (text : Text) : Option Text :=
  if text.take 3 = [quote, quote, quote] then some (text.drop 3) else none

/-- The end of a string of several lines: three quotes, and one or two more that still belong to
the string. -/
def stringEnd? (quote : Char) (text : Text) : Option (Text × Text) :=
  let count := (text.takeWhile (· = quote)).length
  if 3 ≤ count ∧ count ≤ 5 then some (List.replicate (count - 3) quote, text.drop count) else none

/-- What follows blanks and at least one line break. -/
def skipBrokenLine? (text : Text) : Option Text := do
  let rest ← newline? (skipBlanks text)
  let (_, rest) := many (fun text => (newline? (skipBlanks text)).map ((), ·)) rest
  return skipBlanks rest

/-- A part of a quoted string of several lines. A backslash at the end of a line takes the blanks and
line breaks after it away. -/
def multilineQuotedPart? (text : Text) : Option (Text × Text) :=
  match text with
  | '\\' :: rest =>
    match skipBrokenLine? rest with
    | some rest => some ([], rest)
    | none => (escape? text).map fun (c, rest) => ([c], rest)
  | text =>
    match newline? text with
    | some rest => some (['\n'], rest)
    | none =>
      ((quotedChar? text).map fun (c, rest) => ([c], rest)).or (innerQuotes? '"' text)

/-- A part of a literal string of several lines. -/
def multilineLiteralPart? (text : Text) : Option (Text × Text) :=
  match newline? text with
  | some rest => some (['\n'], rest)
  | none =>
    match text with
    | c :: rest => if isInline c ∧ c ≠ '\'' then some ([c], rest) else innerQuotes? '\'' text
    | [] => none

/-- A string of several lines; a line break right behind the opening quotes is left out. -/
def multilineString? (quote : Char) (part : Part Text) (text : Text) : Option (String × Text) := do
  let rest ← tripleQuote? quote text
  let (parts, rest) := many part ((newline? rest).getD rest)
  let (last, rest) ← stringEnd? quote rest
  return (String.ofList (parts.flatten ++ last), rest)

/-- A string on one line, as it can also stand for a key. -/
def lineString? : Part String
  | '"' :: rest => quotedString? ('"' :: rest)
  | text => literalString? text

/-- A string of one of the four forms. -/
def string? (text : Text) : Option (String × Text) :=
  if (tripleQuote? '"' text).isSome then multilineString? '"' multilineQuotedPart? text
  else if (tripleQuote? '\'' text).isSome then multilineString? '\'' multilineLiteralPart? text
  else lineString? text

end PageTemplate.Toml
