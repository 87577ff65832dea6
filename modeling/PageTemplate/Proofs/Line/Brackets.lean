/-
Angle brackets in a line. Filters put none into a text: case mapping is about letters, trimming about white
space, and `escape` leaves no bracket at all, so one `escape` among the filters of a placeholder is enough,
wherever it stands. A line in which every placeholder asks for it has the brackets of its own text and no
others, however its placeholders are replaced.
-/
import PageTemplate.Program.Run
import PageTemplate.Proofs.Line.Resolution
import PageTemplate.Proofs.Text.Case
import PageTemplate.Proofs.Text.Trimming

namespace PageTemplate

/-- The characters that `escape` writes as entities. -/
def IsBracket (c : Char) : Prop := c = '<' ∨ c = '>'

namespace IsBracket

variable {c : Char}

theorem caseless (hc : IsBracket c) : Text.Caseless c := by
  rcases hc with rfl | rfl <;> decide

theorem not_blank (hc : IsBracket c) : Text.isBlank c = false := by
  rcases hc with rfl | rfl <;> decide

theorem ne_newline (hc : IsBracket c) : c ≠ '\n' := by
  rcases hc with rfl | rfl <;> decide

/-- No placeholder has a bracket in its own text. -/
theorem not_inner (hc : IsBracket c) : ¬ Placeholder.Inner c := by
  unfold Placeholder.Inner
  rcases hc with rfl | rfl <;> decide

end IsBracket

variable {c : Char}

/-! ## Filters -/

namespace Filter

/-- A filter other than `escape` keeps the number of brackets. -/
theorem count_apply (hc : IsBracket c) {filter : Filter} (h : filter ≠ .escape) (text : Text) :
    (filter.apply text).count c = text.count c := by
  cases filter with
  | lower => exact Text.count_lower hc.caseless text
  | upper => exact Text.count_upper hc.caseless text
  | escape => exact absurd rfl h
  | asString => rfl
  | strip => exact Text.count_trim hc.not_blank text

theorem bracket_not_mem_escapeChar (hc : IsBracket c) (d : Char) : c ∉ escapeChar d := by
  unfold escapeChar
  split
  · rcases hc with rfl | rfl <;> decide
  · rcases hc with rfl | rfl <;> decide
  · rename_i hlt hgt
    rw [List.mem_singleton]
    rintro rfl
    rcases hc with rfl | rfl
    · exact hlt rfl
    · exact hgt rfl

theorem count_apply_escape (hc : IsBracket c) (text : Text) : (escape.apply text).count c = 0 := by
  rw [List.count_eq_zero, apply, List.mem_flatMap]
  rintro ⟨d, -, hmem⟩
  exact bracket_not_mem_escapeChar hc d hmem

theorem count_applyAll_eq_zero (hc : IsBracket c) :
    ∀ (filters : List Filter) {text : Text}, text.count c = 0 → (applyAll filters text).count c = 0
  | [], _, h => h
  | filter :: filters, text, h => by
    have hfirst : (filter.apply text).count c = 0 := by
      by_cases hescape : filter = .escape
      · rw [hescape, count_apply_escape hc]
      · rw [count_apply hc hescape, h]
    exact count_applyAll_eq_zero hc filters hfirst

/-- One `escape` among filters, at any place, leaves no bracket. -/
theorem count_applyAll_of_escape (hc : IsBracket c) :
    ∀ {filters : List Filter}, .escape ∈ filters → ∀ text : Text, (applyAll filters text).count c = 0
  | filter :: filters, h, text => by
    rcases List.mem_cons.1 h with rfl | h
    · exact count_applyAll_eq_zero hc filters (count_apply_escape hc text)
    · exact count_applyAll_of_escape hc h (filter.apply text)

/-- Filters other than `escape` keep the number of brackets. -/
theorem count_applyAll_of_no_escape (hc : IsBracket c) :
    ∀ {filters : List Filter}, .escape ∉ filters → ∀ text : Text, (applyAll filters text).count c = text.count c
  | [], _, _ => rfl
  | filter :: filters, h, text => by
    obtain ⟨hfilter, hfilters⟩ := not_or.1 (mt List.mem_cons.2 h)
    calc (applyAll (filter :: filters) text).count c
        = (filter.apply text).count c := count_applyAll_of_no_escape hc hfilters (filter.apply text)
      _ = text.count c := count_apply hc (Ne.symm hfilter) text

/-- Angle brackets in a text and filters. If `escape` is among the filters, at whatever place and in whatever
company, there is no bracket in what they make of any text; and if it is not, there are as many of each as in
the text. -/
theorem applyAll_keeps_brackets_unless_escaped (filters : List Filter) (text : Text) :
    (.escape ∈ filters → '<' ∉ applyAll filters text ∧ '>' ∉ applyAll filters text) ∧
    (.escape ∉ filters → (applyAll filters text).count '<' = text.count '<' ∧
      (applyAll filters text).count '>' = text.count '>') := by
  refine ⟨fun h => ⟨?_, ?_⟩, fun h => ⟨?_, ?_⟩⟩
  · exact List.count_eq_zero.1 (count_applyAll_of_escape (.inl rfl) h text)
  · exact List.count_eq_zero.1 (count_applyAll_of_escape (.inr rfl) h text)
  · exact count_applyAll_of_no_escape (.inl rfl) h text
  · exact count_applyAll_of_no_escape (.inr rfl) h text

/-- Entities in capital letters, trimmed, and then asked to be escaped once more. -/
theorem applyAll_keeps_brackets_unless_escaped_of_capitals :
    let filters : List Filter := [.escape, .upper, .strip, .escape]
    .escape ∈ filters ∧ applyAll filters " <b> ".toList = "&LT;B&GT;".toList ∧
      '<' ∉ applyAll filters " <b> ".toList ∧ '>' ∉ applyAll filters " <b> ".toList := by
  intro filters
  have hescape : .escape ∈ filters := by decide
  exact ⟨hescape, by decide +kernel, (applyAll_keeps_brackets_unless_escaped filters " <b> ".toList).1 hescape⟩

theorem escape_mem_of_names {filters : List Filter} {names : List String}
    (h : filters.map name = names) (hescape : "escape" ∈ names) : .escape ∈ filters := by
  rw [← h] at hescape
  obtain ⟨filter, hfilter, hname⟩ := List.mem_map.1 hescape
  cases filter with
  | escape => exact hfilter
  | lower | upper | asString | strip => exact absurd hname (by decide)

end Filter

/-! ## Lines -/

/-- Every placeholder of the text asks for `escape`. -/
def Text.Escaped (text : Text) : Prop := ∀ p : Placeholder, p.In text → "escape" ∈ p.filters

instance (text : Text) : Decidable text.Escaped :=
  decidable_of_iff (∀ p ∈ text.placeholders, "escape" ∈ p.filters) <| by
    simp only [Text.mem_placeholders_iff, Text.Escaped]

theorem Placeholder.Written.count_raw (hc : IsBracket c) {p : Placeholder} (h : p.Written) :
    p.raw.count c = 0 := by
  obtain ⟨inner, hraw, -, hinner⟩ := h.raw_eq
  have hbrace : c ≠ '{' := by rcases hc with rfl | rfl <;> decide
  rw [List.count_eq_zero, hraw]
  intro hmem
  rcases List.mem_cons.1 hmem with heq | hmem
  · exact hbrace heq
  rcases List.mem_cons.1 hmem with heq | hmem
  · exact hbrace heq
  · exact hc.not_inner (hinner c hmem)

/-- A text whose placeholders are replaced by texts without a character has this character as often as
before. -/
theorem Text.Replaced.count (hc : IsBracket c) {shows : Placeholder → Text → Prop} {text page : Text}
    (h : Replaced shows text page) (hshows : ∀ p t, p.In text → shows p t → t.count c = 0) :
    page.count c = text.count c := by
  induction h with
  | nil => rfl
  | @kept d text page _ _ ih =>
    rw [List.count_cons, List.count_cons, ih fun p t hp => hshows p t (hp.append_left [d])]
  | @placeholder p after t page hp ht _ ih =>
    rw [List.count_append, List.count_append, hp.count_raw hc, hshows p t (hp.in_append after) ht,
      ih fun q t hq => hshows q t (hq.append_left _)]

theorem Placeholder.Resolves.count_eq_zero (hc : IsBracket c) {ctx : Context} {p : Placeholder} {t : Text}
    (h : p.Resolves ctx t) (hescape : "escape" ∈ p.filters) : t.count c = 0 := by
  obtain ⟨v, filters, -, hfilters, rfl⟩ := h
  exact Filter.count_applyAll_of_escape hc (Filter.escape_mem_of_names hfilters hescape) _

namespace Substitution

variable {ctx : Context} {line : Text} {s : Substitution}

/-- Substituted, the line has its own brackets only. -/
theorem Of.count_source (hc : IsBracket c) (h : Of ctx line s) (hline : line.Escaped) :
    s.source.count c = line.count c := by
  refine h.source_replaced.count hc fun p t hp ht => ?_
  rcases ht with ht | ⟨-, rfl⟩
  · exact ht.count_eq_zero hc (hline p hp)
  · exact hp.written.count_raw hc

/-- Whatever the names stand for when the line is emitted, it has its own brackets only. -/
theorem Of.count_emitted (hc : IsBracket c) (h : Of ctx line s) (hline : line.Escaped)
    (env : String → Option Value) : (s.segments.flatMap (·.emitted env)).count c = line.count c := by
  refine (h.replaced (·.emitted env) fun _ => rfl).count hc fun p t hp ht => ?_
  obtain ⟨res, hres, rfl⟩ := ht
  cases hres with
  | value hresolves => exact hresolves.count_eq_zero hc (hline p hp)
  | deferred _ hfilters =>
    have hraw := List.count_eq_zero.1 (hp.written.count_raw hc)
    show (Segment.emitted env (.deferred _)).count c = 0
    rw [Segment.emitted]
    split
    · exact Filter.count_applyAll_of_escape hc (Filter.escape_mem_of_names hfilters (hline p hp)) _
    · -- an absent name shows the placeholder itself, without its outer braces
      refine List.count_eq_zero.2 fun hmem => hraw ?_
      exact List.mem_of_mem_tail ((List.dropLast_sublist _).subset hmem)

end Substitution

end PageTemplate
