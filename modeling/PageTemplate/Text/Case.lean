/-
Lower and upper case of a text in all scripts. One character may become several, and a capital
sigma becomes the final form at the end of a word: where a cased character stands before it and
none after it, case-ignorable characters not counted.
-/
import PageTemplate.Text.CaseTable

namespace PageTemplate.Text

/-- The code point that a run gives for `n`, if it covers it. -/
def CaseRun.image? (run : CaseRun) (n : Nat) : Option Nat :=
  if run.first ≤ n ∧ n ≤ run.last ∧ (n - run.first) % run.stride = 0 then
    some (n + run.distance).toNat
  else none

/-- The other case of a character by a table of runs and a table of expansions; a character in
neither stays as it is. -/
def mapCase (runs : List CaseRun) (expansions : List (Nat × List Nat)) (c : Char) : Text :=
  match expansions.lookup c.toNat with
  | some several => several.map Char.ofNat
  | none =>
    match runs.findSome? (·.image? c.toNat) with
    | some n => [Char.ofNat n]
    | none => [c]

/-- Lower case of one character that stands alone. -/
def lowerChar : Char → Text := mapCase lowerRuns lowerExpansions

/-- Upper case of one character. -/
def upperChar : Char → Text := mapCase upperRuns upperExpansions

/-- Is the first character that is not case-ignorable a cased one? -/
def meetsCased (text : Text) : Bool :=
  match text.dropWhile (inRanges caseIgnorableRanges) with
  | c :: _ => inRanges casedRanges c
  | [] => false

/-- Lower case of `text`, where `before` holds the characters in front of it, nearest first. -/
def lowerAfter (before : Text) : Text → Text
  | [] => []
  | c :: text =>
    let mapped :=
      if c = 'Σ' then [if meetsCased before && !meetsCased text then 'ς' else 'σ']
      else lowerChar c
    mapped ++ lowerAfter (c :: before) text

/-- The text in lower case. -/
def lower (text : Text) : Text := lowerAfter [] text

/-- The text in upper case. -/
def upper (text : Text) : Text := text.flatMap upperChar

end PageTemplate.Text
