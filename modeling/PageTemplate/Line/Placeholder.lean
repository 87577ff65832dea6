/-
Placeholders: `{{ name.attribute | filter }}` inside a line, with spaces only where shown. What
does not have this form is text, and a placeholder may begin anywhere inside such text.
-/
import PageTemplate.Text.Basic

namespace PageTemplate

/-- A placeholder, with the text that it stands for when it is written out. -/
structure Placeholder where
  raw : Text
  name : String
  attr : Option String
  filters : List String
  deriving DecidableEq, Repr

/-- A part of a line. -/
inductive Piece where
  | text (t : Text)
  | placeholder (p : Placeholder)
  deriving DecidableEq, Repr

namespace Placeholder

/-- A character of a name. -/
def isNameChar (c : Char) : Bool := ('a' ≤ c && c ≤ 'z') || c = '_'

def isSpace (c : Char) : Bool := c = ' '

/-- A non-empty name and what follows it. -/
def name? (text : Text) : Option (Text × Text) :=
  match text.takeWhile isNameChar with
  | [] => none
  | name => some (name, text.dropWhile isNameChar)

/-- The attribute of a placeholder, if it has one: its name, its text, and what follows it. -/
def attr? : Text → Option (Option String × Text × Text)
  | '.' :: text => (name? text).map fun (a, rest) => (some (String.ofList a), '.' :: a, rest)
  | text => some (none, [], text)

/-- A name and what follows it make up the text. -/
theorem eq_append_of_name? {text name rest : Text} (h : name? text = some (name, rest)) :
    text = name ++ rest := by
  unfold name? at h
  split at h
  · cases h
  · cases h; exact List.takeWhile_append_dropWhile.symm

/-- The filters of a placeholder: their names, their text, and what follows them. -/
def filters? : Text → Option (List String × Text × Text)
  | '|' :: text =>
    match _h : name? (text.dropWhile isSpace) with
    | none => none
    | some (name, rest) =>
      (filters? (rest.dropWhile isSpace)).map fun (names, raw, after) =>
        (String.ofList name :: names,
          '|' :: text.takeWhile isSpace ++ name ++ rest.takeWhile isSpace ++ raw, after)
  | text => some ([], [], text)
termination_by text => text.length
decreasing_by
  have h₁ := congrArg List.length (eq_append_of_name? _h)
  have h₂ := (List.dropWhile_suffix (l := text) isSpace).length_le
  have h₃ := (List.dropWhile_suffix (l := rest) isSpace).length_le
  simp only [List.length_append, List.length_cons] at h₁ ⊢
  omega

/-- The placeholder at the start of a text, and what follows it. -/
def scan? : Text → Option (Placeholder × Text)
  | '{' :: '{' :: text => do
    let (name, rest) ← name? (text.dropWhile isSpace)
    let (attr, dotted, rest) ← attr? rest
    let (filters, listed, after) ← filters? (rest.dropWhile isSpace)
    match after with
    | '}' :: '}' :: after =>
      let raw := '{' :: '{' :: text.takeWhile isSpace ++ name ++ dotted ++ rest.takeWhile isSpace
        ++ listed ++ ['}', '}']
      some (⟨raw, String.ofList name, attr, filters⟩, after)
    | _ => none
  | _ => none

/-- The text of an attribute and what follows it make up the text. -/
theorem eq_append_of_attr? {text raw after : Text} {attr : Option String}
    (h : attr? text = some (attr, raw, after)) : text = raw ++ after := by
  unfold attr? at h
  split at h
  · simp only [Option.map_eq_some_iff, Prod.mk.injEq] at h
    obtain ⟨⟨a, rest⟩, ha, -, rfl, rfl⟩ := h
    simp [eq_append_of_name? ha]
  · cases h; rfl

/-- The text of the filters and what follows them make up the text. -/
theorem eq_append_of_filters? {text raw after : Text} {names : List String}
    (h : filters? text = some (names, raw, after)) : text = raw ++ after := by
  fun_induction filters? text generalizing names raw after with
  | case1 => cases h
  | case2 text name rest hname ih =>
    simp only [Option.map_eq_some_iff, Prod.mk.injEq] at h
    obtain ⟨⟨names', raw', after'⟩, hf, -, rfl, rfl⟩ := h
    have hsplit := eq_append_of_name? hname
    have hrest := ih hf
    calc '|' :: text
        = '|' :: (text.takeWhile isSpace ++ text.dropWhile isSpace) := by simp
      _ = '|' :: (text.takeWhile isSpace ++ (name ++ rest)) := by rw [hsplit]
      _ = '|' :: (text.takeWhile isSpace ++
            (name ++ (rest.takeWhile isSpace ++ rest.dropWhile isSpace))) := by simp
      _ = _ := by rw [hrest]; simp
  | case3 => cases h; simp

/-- A placeholder and what follows it make up the text. -/
theorem eq_append_of_scan? {text after : Text} {p : Placeholder}
    (h : scan? text = some (p, after)) : text = p.raw ++ after := by
  unfold scan? at h
  split at h
  · rename_i text
    simp only [Option.bind_eq_bind, Option.bind_eq_some_iff] at h
    obtain ⟨⟨name, rest⟩, hname, ⟨attr, dotted, rest'⟩, hattr, ⟨filters, listed, close⟩, hlist, h⟩ := h
    dsimp only at hattr hlist h
    split at h
    · cases h
      have h₁ := eq_append_of_name? hname
      have h₂ := eq_append_of_attr? hattr
      have h₃ := eq_append_of_filters? hlist
      calc '{' :: '{' :: text
          = '{' :: '{' :: (text.takeWhile isSpace ++ text.dropWhile isSpace) := by simp
        _ = '{' :: '{' :: (text.takeWhile isSpace ++ (name ++ (dotted ++
              (rest'.takeWhile isSpace ++ rest'.dropWhile isSpace)))) := by rw [h₁, h₂]; simp
        _ = _ := by rw [h₃]; simp
    · cases h
  · cases h

/-- A placeholder is not empty. -/
theorem raw_ne_nil_of_scan? {text after : Text} {p : Placeholder}
    (h : scan? text = some (p, after)) : p.raw ≠ [] := by
  unfold scan? at h
  split at h
  · simp only [Option.bind_eq_bind, Option.bind_eq_some_iff] at h
    obtain ⟨_, -, _, -, _, -, h⟩ := h
    split at h
    · cases h; simp
    · cases h
  · cases h

end Placeholder

namespace Piece

/-- The text of a piece, as it stands in the line. -/
def raw : Piece → Text
  | .text t => t
  | .placeholder p => p.raw

/-- Puts a character of text in front of pieces. -/
def cons (c : Char) : List Piece → List Piece
  | .text t :: rest => .text (c :: t) :: rest
  | pieces => .text [c] :: pieces

/-- The pieces of a line: its placeholders and the text between them. -/
def ofLine : Text → List Piece
  | [] => []
  | c :: line =>
    match _h : Placeholder.scan? (c :: line) with
    | some (p, after) => .placeholder p :: ofLine after
    | none => cons c (ofLine line)
termination_by line => line.length
decreasing_by
  · have h₁ := congrArg List.length (Placeholder.eq_append_of_scan? _h)
    have h₂ := List.length_pos_iff.mpr (Placeholder.raw_ne_nil_of_scan? _h)
    simp only [List.length_append] at h₁
    omega
  · simp

end Piece

end PageTemplate
