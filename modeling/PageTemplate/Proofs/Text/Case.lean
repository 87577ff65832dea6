/-
Case mapping away from letters. Every mapping of the tables is between code points of letters, at or above
`A`, so the characters below, among them line breaks, brackets and quotes, are where they were and are as
many as before, whatever is mapped around them.
-/
import Mathlib.Tactic.Common
import PageTemplate.Text.Case

namespace PageTemplate.Text

/-- A character below all letters. -/
def Caseless (c : Char) : Prop := 0 < c.toNat ∧ c.toNat < 'A'.toNat

instance (c : Char) : Decidable (Caseless c) := inferInstanceAs (Decidable (_ ∧ _))

/-- A run maps letters to letters. -/
def CaseRun.OfLetters (run : CaseRun) : Prop := 'A'.toNat ≤ run.first ∧ 'A'.toNat ≤ run.first + run.distance

instance (run : CaseRun) : Decidable run.OfLetters := inferInstanceAs (Decidable (_ ∧ _))

/-- An expansion maps a letter to letters. -/
def ExpansionOfLetters (expansion : Nat × List Nat) : Prop :=
  'A'.toNat ≤ expansion.1 ∧ ∀ n ∈ expansion.2, 'A'.toNat ≤ n

instance (expansion : Nat × List Nat) : Decidable (ExpansionOfLetters expansion) :=
  inferInstanceAs (Decidable (_ ∧ _))

theorem lowerRuns_ofLetters : ∀ run ∈ lowerRuns, run.OfLetters := by decide +kernel

theorem upperRuns_ofLetters : ∀ run ∈ upperRuns, run.OfLetters := by decide +kernel

theorem lowerExpansions_ofLetters : ∀ expansion ∈ lowerExpansions, ExpansionOfLetters expansion := by
  decide +kernel

theorem upperExpansions_ofLetters : ∀ expansion ∈ upperExpansions, ExpansionOfLetters expansion := by
  decide +kernel

variable {c d : Char} {n m : Nat}

/-! ## One character -/

theorem Caseless.not_mem_singleton (hc : Caseless c) (h : 'A'.toNat ≤ d.toNat) : c ∉ [d] := by
  rw [List.mem_singleton]
  rintro rfl
  exact Nat.not_lt.2 h hc.2

/-- The code point of a letter gives no character below letters. -/
theorem Caseless.ne_ofNat (hc : Caseless c) (h : 'A'.toNat ≤ n) : c ≠ Char.ofNat n := by
  rintro rfl
  by_cases hvalid : n.isValidChar
  · have hn : (Char.ofNat n).toNat = n := by
      rw [Char.ofNat, dif_pos hvalid]
      rfl
    exact Nat.not_lt.2 h (hn ▸ hc.2)
  · rw [Char.ofNat, dif_neg hvalid] at hc
    exact absurd hc (by decide)

theorem CaseRun.le_of_image? {run : CaseRun} (hrun : run.OfLetters) (h : run.image? n = some m) :
    'A'.toNat ≤ n ∧ 'A'.toNat ≤ m := by
  obtain ⟨hfirst, himage⟩ := hrun
  unfold image? at h
  split_ifs at h with hrange
  cases h
  omega

variable {runs : List CaseRun} {expansions : List (Nat × List Nat)}

section

variable (hruns : ∀ run ∈ runs, run.OfLetters)
  (hexpansions : ∀ expansion ∈ expansions, ExpansionOfLetters expansion)
include hruns hexpansions

/-- A character below letters is mapped to itself, and no other one is mapped to it. -/
theorem count_mapCase (hc : Caseless c) (d : Char) :
    (mapCase runs expansions d).count c = [d].count c := by
  unfold mapCase
  split
  · rename_i several hlookup
    obtain ⟨before, after, hmem, -⟩ := List.lookup_eq_some_iff.1 hlookup
    obtain ⟨hd, hseveral⟩ := hexpansions (d.toNat, several) (by simp [hmem])
    rw [List.count_eq_zero.2 (hc.not_mem_singleton hd), List.count_eq_zero]
    intro hmem
    obtain ⟨n, hn, heq⟩ := List.mem_map.1 hmem
    exact hc.ne_ofNat (hseveral n hn) heq.symm
  · split
    · rename_i n hfound
      obtain ⟨run, hrun, himage⟩ := List.exists_of_findSome?_eq_some hfound
      obtain ⟨hd, hn⟩ := CaseRun.le_of_image? (hruns run hrun) himage
      rw [List.count_eq_zero.2 (hc.not_mem_singleton hd), List.count_eq_zero, List.mem_singleton]
      exact hc.ne_ofNat hn
    · rfl

end

/-! ## Texts -/

theorem count_lowerAfter (hc : Caseless c) : ∀ before text : Text,
    (lowerAfter before text).count c = text.count c
  | _, [] => rfl
  | before, d :: text => by
    have hmapped : (if d = 'Σ' then [if meetsCased before && !meetsCased text then 'ς' else 'σ']
        else lowerChar d).count c = [d].count c := by
      split_ifs with hsigma hfinal
      · rw [hsigma, List.count_eq_zero.2 (hc.not_mem_singleton (by decide)),
          List.count_eq_zero.2 (hc.not_mem_singleton (by decide))]
      · rw [hsigma, List.count_eq_zero.2 (hc.not_mem_singleton (by decide)),
          List.count_eq_zero.2 (hc.not_mem_singleton (by decide))]
      · exact count_mapCase lowerRuns_ofLetters lowerExpansions_ofLetters hc d
    rw [lowerAfter, List.count_append, count_lowerAfter hc (d :: before) text, hmapped, ← List.count_append,
      List.singleton_append]

/-- A character below letters stands in the lower case of a text as often as in the text. -/
theorem count_lower (hc : Caseless c) (text : Text) : text.lower.count c = text.count c :=
  count_lowerAfter hc [] text

/-- A character below letters stands in the upper case of a text as often as in the text. -/
theorem count_upper (hc : Caseless c) : ∀ text : Text, text.upper.count c = text.count c
  | [] => rfl
  | d :: text => by
    have hmapped : (upperChar d).count c = [d].count c :=
      count_mapCase upperRuns_ofLetters upperExpansions_ofLetters hc d
    show (upperChar d ++ upper text).count c = _
    rw [List.count_append, count_upper hc text, hmapped, ← List.count_append, List.singleton_append]

end PageTemplate.Text
