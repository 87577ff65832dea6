/-
Reading a TOML document: keys, values and the lines they stand on. The lines are gathered into
tables in the order in which they come.
-/
import PageTemplate.Toml.Number
import PageTemplate.Toml.Section
import PageTemplate.Toml.Strings

namespace PageTemplate.Toml

/-! ## Keys -/

/-- A character of a key without quotes. -/
def isKeyChar (c : Char) : Bool :=
  c.isAlpha || c.isDigit || c = '-' || c = '_'

/-- One part of a key, with the blanks around it. -/
def keyPart? (text : Text) : Option (String × Text) := do
  let text := skipBlanks text
  let (part, rest) ←
    match text with
    | '"' :: _ => quotedString? text
    | '\'' :: _ => literalString? text
    | _ =>
      match text.takeWhile isKeyChar with
      | [] => none
      | part => some (String.ofList part, text.dropWhile isKeyChar)
  return (part, skipBlanks rest)

/-- The greatest number of parts that a key can have. -/
def maxKeyParts : Nat := 79

/-- The parts of a dotted key but the last one, and the last one. -/
def key? (text : Text) : Option ((List String × String) × Text) := do
  let (first, rest) ← keyPart? text
  let (more, rest) := many (fun text => expect? '.' text >>= keyPart?) rest
  let parts := first :: more
  let last ← parts.getLast?
  if maxKeyParts < parts.length then none else return ((parts.dropLast, last), rest)

/-! ## Values -/

/-- The greatest depth of arrays and inline tables inside each other. -/
def maxNesting : Nat := 79

/-- A value that holds no other values. -/
def scalar? (text : Text) : Option (Toml × Text) :=
  match text with
  | '"' :: _ | '\'' :: _ => (string? text).map fun (s, rest) => (.string s, rest)
  | 't' :: 'r' :: 'u' :: 'e' :: rest => some (.boolean true, rest)
  | 'f' :: 'a' :: 'l' :: 's' :: 'e' :: rest => some (.boolean false, rest)
  | _ =>
    match Moment.read? text with
    | some (m, rest) => some (.moment m, rest)
    | none =>
      match float? text with
      | some (x, rest) => some (.float x, rest)
      | none => (integer? text).map fun (i, rest) => (.integer i, rest)

/-- An item of an array, with the blanks, line breaks and comments around it. -/
def arrayItem? (value : Part Toml) (text : Text) : Option (Toml × Text) := do
  let (v, rest) ← value (skipLines text)
  return (v, skipLines rest)

/-- The items of an array and its end; a comma may stand behind the last item. -/
def arrayItems? (value : Part Toml) (text : Text) : Option (List Toml × Text) :=
  match arrayItem? value text with
  | none => (expect? ']' (skipLines text)).map ([], ·)
  | some (first, rest) => do
    let (more, rest) := many (fun text => expect? ',' text >>= arrayItem? value) rest
    let rest := (expect? ',' rest).getD rest
    return (first :: more, ← expect? ']' (skipLines rest))

/-- A key, an equals sign and a value, with blanks around them. -/
def pair? (value : Part Toml) (text : Text) : Option (((List String × String) × Toml) × Text) := do
  let (key, rest) ← key? text
  let (v, rest) ← value (skipBlanks (← expect? '=' rest))
  return ((key, v), skipBlanks rest)

/-- The table of the entries of an inline table, up to its end. -/
def inlineEntries? (value : Part Toml) (text : Text) : Option (Toml × Text) := do
  let (pairs, rest) :=
    match pair? value text with
    | none => ([], skipBlanks text)
    | some (first, rest) =>
      let (more, rest) := many (fun text => expect? ',' text >>= pair? value) rest
      (first :: more, rest)
  let rest ← expect? '\x7d' rest
  let items ← pairs.foldlM (fun items ((path, key), v) => Items.addDotted? key v path items) []
  return (.table (Items.toFields items), rest)

/-- A value in which arrays and inline tables are at most `levels` deep inside each other. -/
def value? : (levels : Nat) → Text → Option (Toml × Text)
  | levels, '[' :: rest =>
    match levels with
    | 0 => none
    | levels + 1 => (arrayItems? (value? levels) rest).map fun (vs, rest) => (.array vs, rest)
  | levels, '\x7b' :: rest =>
    match levels with
    | 0 => none
    | levels + 1 => inlineEntries? (value? levels) rest
  | _, text => scalar? text

/-! ## Lines -/

/-- What a line of a document says. -/
inductive Line where
  | blank
  | table (path : List String) (key : String)
  | element (path : List String) (key : String)
  | entry (path : List String) (key : String) (v : Toml)

/-- The content of a line, without what may stand behind it. -/
def lineContent? (text : Text) : Option (Line × Text) :=
  match text with
  | [] => some (.blank, [])
  | '#' :: _ | '\n' :: _ | '\r' :: _ => some (.blank, text)
  | '[' :: '[' :: rest => do
    let ((path, key), rest) ← key? rest
    return (.element path key, ← expect? ']' (← expect? ']' rest))
  | '[' :: rest => do
    let ((path, key), rest) ← key? rest
    return (.table path key, ← expect? ']' rest)
  | _ => do
    let (((path, key), v), rest) ← pair? (value? maxNesting) text
    return (.entry path key v, rest)

/-- A line and its end; behind the end of the text there is none. -/
def line? : Part Line
  | [] => none
  | text => do
    let (line, rest) ← lineContent? (skipBlanks text)
    return (line, ← lineEnd? rest)

/-- The tables that are read so far, and the path of the header that the next lines belong to. -/
structure Reading where
  root : Items := []
  place : List String := []

/-- Takes one more line. -/
def Reading.add? (reading : Reading) : Line → Option Reading
  | .blank => some reading
  | .table path key =>
    (reading.root.within? (Items.openTable? key) path).map fun root => ⟨root, path ++ [key]⟩
  | .element path key =>
    (reading.root.within? (Items.openElement? key) path).map fun root => ⟨root, path ++ [key]⟩
  | .entry path key v =>
    (reading.root.within? (Items.addDotted? key v path) reading.place).map fun root =>
      { reading with root }

/-- The settled fields of the top table of a document, if the text is a document. A mark of the byte
order may stand in front. -/
def document? (text : Text) : Option (List (String × Toml)) := do
  let text :=
    match text with
    | '\uFEFF' :: rest => rest
    | text => text
  match many line? text with
  | (lines, []) =>
    let reading ← lines.foldlM Reading.add? {}
    settledFields? reading.root.toFields
  | _ => none

end PageTemplate.Toml
