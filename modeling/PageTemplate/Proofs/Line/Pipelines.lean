/-
Filters one after another. `escape` changes brackets and `strip` the white space at the two ends, so they do
not get into each other's way, and neither has anything left to do when it is asked for again. Main result:
lists of `escape`, `strip` and `as_string` make the same of every text if the same filters are in them, in
whatever order and however often. Case mapping is left out: `upper` reaches the letters of an entity.
-/
import PageTemplate.Proofs.Line.Brackets

namespace PageTemplate.Filter

variable {filters filters' : List Filter}

/-! ## Two filters -/

theorem escapeChar_of_not_isBracket {c : Char} (hc : ¬ IsBracket c) : escapeChar c = [c] := by
  unfold escapeChar
  split
  · exact absurd (.inl rfl) hc
  · exact absurd (.inr rfl) hc
  · rfl

theorem keepsBlanks_escapeChar : Text.KeepsBlanks escapeChar where
  blank _ hc := escapeChar_of_not_isBracket fun hbracket => Bool.eq_false_iff.1 hbracket.not_blank hc
  ne_nil c _ := by
    unfold escapeChar
    split
    · decide
    · decide
    · exact List.cons_ne_nil c []
  not_blank c hc := by
    unfold escapeChar
    split
    · exact List.any_eq_false.1 (by decide)
    · exact List.any_eq_false.1 (by decide)
    · exact List.forall_mem_singleton.2 hc

/-- In a text without brackets there is nothing to escape. -/
theorem apply_escape_of_no_bracket {text : Text} (h : ∀ c ∈ text, ¬ IsBracket c) : escape.apply text = text := by
  calc text.flatMap escapeChar
      = text.flatMap ([·]) := List.flatMap_congr fun c hc => escapeChar_of_not_isBracket (h c hc)
    _ = text := List.flatMap_singleton' text

theorem apply_escape_escape (text : Text) : escape.apply (escape.apply text) = escape.apply text :=
  apply_escape_of_no_bracket fun _ hmem hc => List.count_eq_zero.1 (count_apply_escape hc text) hmem

theorem apply_strip_strip (text : Text) : strip.apply (strip.apply text) = strip.apply text :=
  Text.trim_trim text

theorem apply_strip_escape (text : Text) : strip.apply (escape.apply text) = escape.apply (strip.apply text) :=
  keepsBlanks_escapeChar.trim_flatMap text

/-! ## Lists of filters -/

/-- A filter that leaves the case of letters alone. -/
def KeepsCase (filter : Filter) : Prop := filter = .escape ∨ filter = .strip ∨ filter = .asString

instance : DecidablePred KeepsCase := fun _ => inferInstanceAs (Decidable (_ ∨ _))

/-- What there is to do for a list of filters that leave case alone: to strip and to escape, each at most
once and in this order. -/
def essential (filters : List Filter) : List Filter := [strip, escape].filter (· ∈ filters)

theorem essential_congr (hescape : .escape ∈ filters ↔ .escape ∈ filters')
    (hstrip : .strip ∈ filters ↔ .strip ∈ filters') : essential filters = essential filters' := by
  refine List.filter_congr fun filter hfilter => decide_eq_decide.2 ?_
  rcases List.mem_pair.1 hfilter with rfl | rfl
  · exact hstrip
  · exact hescape

/-- A filter in front of the list has its effect before the others, whether or not it comes again. -/
theorem applyAll_essential_cons {filter : Filter} (h : filter.KeepsCase) (filters : List Filter) (text : Text) :
    applyAll (essential (filter :: filters)) text = applyAll (essential filters) (filter.apply text) := by
  rcases h with rfl | rfl | rfl
  · -- it is put behind `strip`, and taken together with an `escape` that comes later
    by_cases hstrip : .strip ∈ filters <;> by_cases hescape : .escape ∈ filters <;>
      simp [essential, applyAll, hstrip, hescape, apply_strip_escape, apply_escape_escape]
  · by_cases hstrip : .strip ∈ filters <;> by_cases hescape : .escape ∈ filters <;>
      simp [essential, applyAll, hstrip, hescape, apply_strip_strip]
  · have hsame : essential (.asString :: filters) = essential filters := essential_congr (by simp) (by simp)
    rw [hsame]
    rfl

/-- Filters that leave case alone do what is essential of them. -/
theorem applyAll_eq_essential :
    ∀ {filters : List Filter}, (∀ filter ∈ filters, filter.KeepsCase) → ∀ text : Text,
      applyAll filters text = applyAll (essential filters) text
  | [], _, _ => rfl
  | filter :: filters, h, text => by
    obtain ⟨hfilter, hfilters⟩ := List.forall_mem_cons.1 h
    calc applyAll (filter :: filters) text
        = applyAll (essential filters) (filter.apply text) := applyAll_eq_essential hfilters (filter.apply text)
      _ = applyAll (essential (filter :: filters)) text := (applyAll_essential_cons hfilter filters text).symm

/-- The order of filters, and filters that come again. Any two lists of `escape`, `strip` and `as_string` make
the same of every text if both or neither have `escape` in them, and both or neither `strip`. So each of the
two filters does the same twice as once, and it does not matter which of them comes first. -/
theorem applyAll_depends_on_occurring_filters (text : Text) :
    (∀ filters filters' : List Filter,
      (∀ filter ∈ filters, filter.KeepsCase) → (∀ filter ∈ filters', filter.KeepsCase) →
      (.escape ∈ filters ↔ .escape ∈ filters') → (.strip ∈ filters ↔ .strip ∈ filters') →
      applyAll filters text = applyAll filters' text) ∧
    escape.apply (escape.apply text) = escape.apply text ∧
    strip.apply (strip.apply text) = strip.apply text ∧
    strip.apply (escape.apply text) = escape.apply (strip.apply text) := by
  refine ⟨?_, apply_escape_escape text, apply_strip_strip text, apply_strip_escape text⟩
  intro filters filters' hkeeps hkeeps' hescape hstrip
  calc applyAll filters text
      = applyAll (essential filters) text := applyAll_eq_essential hkeeps text
    _ = applyAll (essential filters') text := by rw [essential_congr hescape hstrip]
    _ = applyAll filters' text := (applyAll_eq_essential hkeeps' text).symm

/-- White space of several kinds around a tag, escaped twice in the one list and stripped first in the other. -/
theorem applyAll_depends_on_occurring_filters_of_padded_tag :
    let filters : List Filter := [.escape, .asString, .strip, .escape]
    let filters' : List Filter := [.strip, .strip, .escape]
    let text := "\t\u2003<b> \n".toList
    (∀ filter ∈ filters, filter.KeepsCase) ∧ (∀ filter ∈ filters', filter.KeepsCase) ∧
      (.escape ∈ filters ↔ .escape ∈ filters') ∧ (.strip ∈ filters ↔ .strip ∈ filters') ∧
      applyAll filters text = "&lt;b&gt;".toList ∧ applyAll filters text = applyAll filters' text := by
  intro filters filters' text
  have hkeeps : ∀ filter ∈ filters, filter.KeepsCase := by decide
  have hkeeps' : ∀ filter ∈ filters', filter.KeepsCase := by decide
  have hescape : .escape ∈ filters ↔ .escape ∈ filters' := by decide
  have hstrip : .strip ∈ filters ↔ .strip ∈ filters' := by decide
  exact ⟨hkeeps, hkeeps', hescape, hstrip, by decide +kernel,
    (applyAll_depends_on_occurring_filters text).1 filters filters' hkeeps hkeeps' hescape hstrip⟩

-- the place of `upper` is seen: it does not leave the case of letters alone
example : applyAll [.escape, .upper] ['<'] = "&LT;".toList ∧ applyAll [.upper, .escape] ['<'] = "&lt;".toList := by
  decide +kernel

end PageTemplate.Filter
