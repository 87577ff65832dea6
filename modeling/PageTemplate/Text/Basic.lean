/-
Text under scan, as a list of characters: prefixes, the first and the last place of a pattern,
lines, and lookup in a table of code points.
-/

namespace PageTemplate

/-- Text that is scanned, cut and joined: template source, lines, conditions, pages. Names, keys
and the strings of page data are `String`s. -/
abbrev Text := List Char

namespace Text

/-! ## Patterns -/

/-- What follows `pattern` in a text that starts with it. -/
def afterPrefix? : Text → Text → Option Text
  | [], text => some text
  | _ :: _, [] => none
  | p :: pattern, c :: text => if p = c then afterPrefix? pattern text else none

/-- The texts before and after the first place where `pattern` stands. -/
def cut? (pattern : Text) : Text → Option (Text × Text)
  | [] => (afterPrefix? pattern []).map fun after => ([], after)
  | c :: text =>
    match afterPrefix? pattern (c :: text) with
    | some after => some ([], after)
    | none => (cut? pattern text).map fun (before, after) => (c :: before, after)

/-- The texts before and after the last place where `pattern` stands. -/
def cutLast? (pattern : Text) : Text → Option (Text × Text)
  | [] => (afterPrefix? pattern []).map fun after => ([], after)
  | c :: text =>
    match cutLast? pattern text with
    | some (before, after) => some (c :: before, after)
    | none => (afterPrefix? pattern (c :: text)).map fun after => ([], after)

/-- Does `pattern` stand somewhere in the text? -/
def contains (pattern text : Text) : Bool := (cut? pattern text).isSome

theorem eq_append_of_afterPrefix? {pattern text after : Text}
    (h : afterPrefix? pattern text = some after) : text = pattern ++ after := by
  induction pattern generalizing text with
  | nil => simpa [afterPrefix?] using h
  | cons p pattern ih =>
    cases text with
    | nil => simp [afterPrefix?] at h
    | cons c text =>
      simp only [afterPrefix?] at h
      split at h
      · rename_i hpc; subst hpc; simp [ih h]
      · cases h

/-- A cut loses nothing but the pattern itself. -/
theorem eq_append_of_cut? {pattern text before after : Text}
    (h : cut? pattern text = some (before, after)) : text = before ++ pattern ++ after := by
  induction text generalizing before with
  | nil =>
    simp only [cut?, Option.map_eq_some_iff, Prod.mk.injEq] at h
    obtain ⟨_, ha, rfl, rfl⟩ := h
    simpa using eq_append_of_afterPrefix? ha
  | cons c text ih =>
    simp only [cut?] at h
    split at h
    · rename_i ha; cases h; simpa using eq_append_of_afterPrefix? ha
    · simp only [Option.map_eq_some_iff, Prod.mk.injEq] at h
      obtain ⟨⟨b, a⟩, hb, rfl, rfl⟩ := h
      simp [ih hb]

/-! ## Lines -/

/-- The lines of a text, split at every line break; a text has at least one line. -/
def lines (text : Text) : List Text := text.splitOn '\n'

/-- The text with these lines, a line break between neighbours. -/
def ofLines (lines : List Text) : Text := ['\n'].intercalate lines

/-! ## Tables of code points -/

/-- Is the character inside one of the closed ranges? -/
def inRanges (ranges : List (Nat × Nat)) (c : Char) : Bool :=
  ranges.any fun (first, last) => first ≤ c.toNat && c.toNat ≤ last

end Text

end PageTemplate
