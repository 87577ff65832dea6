/-
Line breaks come from data only. The text of an attribute is a part of the text of its map, no filter makes
a line break, and the time has none; so where no value of a context has a line break in its text, no text
that is put into a line has one.
-/
import PageTemplate.Proofs.Context
import PageTemplate.Proofs.Line.Resolution
import PageTemplate.Proofs.Text.Case

namespace PageTemplate

/-! ## Numbers -/

theorem newline_not_mem_digitsOf (n : Nat) : '\n' ∉ digitsOf n := fun h =>
  absurd (Nat.isDigit_of_mem_toDigits (by decide) (by decide) h) (by decide)

theorem Decimal.newline_not_mem_plain (d : Decimal) : '\n' ∉ d.plain := by
  have hdigits := newline_not_mem_digitsOf d.digits
  have htake (n : Nat) : '\n' ∉ (digitsOf d.digits).take n := fun h => hdigits (List.mem_of_mem_take h)
  have hdrop (n : Nat) : '\n' ∉ (digitsOf d.digits).drop n := fun h => hdigits (List.mem_of_mem_drop h)
  unfold plain
  dsimp only
  split_ifs
  · simp [hdigits]
  · simp [htake, hdrop]
  · simp [hdigits]

theorem Decimal.newline_not_mem_scientific {mark : Char} (hmark : '\n' ≠ mark) (d : Decimal) (exponent : Int) :
    '\n' ∉ d.scientific mark exponent := by
  have hdigits := newline_not_mem_digitsOf d.digits
  have hexponent := newline_not_mem_digitsOf exponent.natAbs
  unfold scientific
  dsimp only
  split <;> rename_i heq
  · rw [heq] at hdigits
    split_ifs <;> simp_all
  · split_ifs <;> simp_all

/-- The text of a number is a single line. -/
theorem Value.newline_not_mem_text_float (x : Float) : '\n' ∉ (Value.float x).text := by
  have hsign : '\n' ∉ (if x.toBits >>> 63 = 1 then ['-'] else [] : Text) := by split_ifs <;> decide
  rw [text, Notation.write]
  dsimp only
  by_cases hnan : x.isNaN
  · rw [if_pos hnan]
    decide
  by_cases hinf : x.isInf
  · rw [if_neg hnan, if_pos hinf]
    exact List.not_mem_append hsign (by decide)
  rw [if_neg hnan, if_neg hinf]
  refine List.not_mem_append hsign ?_
  split_ifs
  · exact Decimal.newline_not_mem_plain _
  · exact Decimal.newline_not_mem_scientific (by decide) _ _

/-! ## Attributes -/

namespace Value

theorem mem_fieldTexts {key : String} {value : Value} :
    ∀ {fields : List (String × Value)}, (key, value) ∈ fields →
      key.toList ++ ':' :: ' ' :: value.text ∈ fieldTexts fields
  | (k, v) :: rest, h => by
    rw [fieldTexts]
    rcases List.mem_cons.1 h with heq | h
    · cases heq
      exact List.mem_cons_self
    · exact List.mem_cons_of_mem _ (mem_fieldTexts h)

/-- The text of an attribute is a part of the text of the value. -/
theorem text_infix_of_attribute? {name : String} {v w : Value} (h : v.attribute? name = some w) :
    w.text <:+: v.text := by
  cases v with
  | map fields =>
    have hentry := Text.infix_intercalate separator (mem_fieldTexts (Fields.mem_of_get? h))
    rw [text]
    refine List.IsInfix.trans ?_ ((hentry.trans (List.suffix_cons _ _).isInfix).trans (List.prefix_append _ _).isInfix)
    exact ⟨name.toList ++ [':', ' '], [], by simp⟩
  | _ => cases h

end Value

/-! ## Filters -/

namespace Filter

/-- No filter makes a line break. -/
theorem newline_not_mem_apply {text : Text} (h : '\n' ∉ text) (filter : Filter) : '\n' ∉ filter.apply text := by
  cases filter with
  | lower => rwa [apply, ← List.count_eq_zero, Text.count_lower (by decide), List.count_eq_zero]
  | upper => rwa [apply, ← List.count_eq_zero, Text.count_upper (by decide), List.count_eq_zero]
  | escape =>
    rw [apply, List.mem_flatMap]
    rintro ⟨c, hc, hbreak⟩
    unfold escapeChar at hbreak
    split at hbreak
    · exact absurd hbreak (by decide)
    · exact absurd hbreak (by decide)
    · rw [List.mem_singleton.1 hbreak] at h
      exact h hc
  | asString => exact h
  | strip =>
    intro hbreak
    have hfront := (List.dropWhile_sublist _).subset (List.mem_reverse.1 hbreak)
    exact h ((List.dropWhile_sublist _).subset (List.mem_reverse.1 hfront))

theorem newline_not_mem_applyAll : ∀ (filters : List Filter) {text : Text}, '\n' ∉ text →
    '\n' ∉ applyAll filters text
  | [], _, h => h
  | filter :: filters, _, h => newline_not_mem_applyAll filters (newline_not_mem_apply h filter)

end Filter

/-! ## Contexts -/

/-- No value of the context has a line break in its text. -/
def Context.OneLine (ctx : Context) : Prop := ∀ name v, ctx.get? name = some v → '\n' ∉ v.text

/-- The forms of the time have no line breaks. -/
structure Reading.OneLine (now : Reading) : Prop where
  date : '\n' ∉ now.date.toList
  isoDate : '\n' ∉ now.isoDate.toList

namespace Context.OneLine

variable {ctx : Context}

theorem insert (h : ctx.OneLine) (name : String) {value : Value} (hvalue : '\n' ∉ value.text) :
    (ctx.insert name value).OneLine := by
  intro m v hv
  by_cases hm : m = name
  · subst hm
    rw [Context.get?, Context.insert, Fields.get?_insert_self] at hv
    cases hv
    exact hvalue
  · rw [Context.get?, Context.insert, Fields.get?_insert_of_ne hm] at hv
    exact h m v hv

theorem refresh (h : ctx.OneLine) {now : Reading} (hnow : now.OneLine) : (ctx.refresh now).OneLine := by
  have hdate : '\n' ∉ (Value.str now.date).text := by rw [Value.text]; exact hnow.date
  have hiso : '\n' ∉ (Value.str now.isoDate).text := by rw [Value.text]; exact hnow.isoDate
  exact ((h.insert "timestamp" (Value.newline_not_mem_text_float _)).insert "date" hdate).insert "iso_date" hiso

/-- Nothing that is put in for a placeholder has a line break. -/
theorem newline_not_mem (h : ctx.OneLine) {p : Placeholder} {t : Text} (ht : p.Resolves ctx t) : '\n' ∉ t := by
  obtain ⟨v, filters, hv, -, rfl⟩ := ht
  refine Filter.newline_not_mem_applyAll filters ?_
  cases hattr : p.attr.bind v.attribute? with
  | none => exact h _ _ hv
  | some w =>
    obtain ⟨name, -, hw⟩ := Option.bind_eq_some_iff.1 hattr
    exact fun hbreak => h _ _ hv ((Value.text_infix_of_attribute? hw).subset hbreak)

end Context.OneLine

end PageTemplate
