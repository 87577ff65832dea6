/-
White space at the two ends of a text. Trimming takes it away and takes nothing else, so what is trimmed
stays as it is when it is trimmed again. Characters can be replaced before trimming or after it, as long as
white space is left alone and nothing else is replaced by white space: a text then begins and ends with
white space just where it did before.
-/
import Mathlib.Data.List.TakeWhile
import PageTemplate.Text.Blank

namespace PageTemplate.Text

variable {text : Text} {c : Char}

/-! ## Ends of a text -/

/-- A text that neither begins nor ends with white space is trimmed. -/
theorem trim_eq_self (hfirst : ∀ c ∈ text.head?, isBlank c = false)
    (hlast : ∀ c ∈ text.getLast?, isBlank c = false) : text.trim = text := by
  have hfront : ∀ {t : Text}, (∀ c ∈ t.head?, isBlank c = false) → t.dropWhile isBlank = t := by
    intro t ht
    cases t with
    | nil => rfl
    | cons c t => rw [List.dropWhile_cons_of_neg (by rw [ht c rfl]; decide)]
  have hback : ∀ c ∈ text.reverse.head?, isBlank c = false := by
    intro c hc
    rw [List.head?_reverse] at hc
    exact hlast c hc
  rw [trim, hfront hfirst, hfront hback, List.reverse_reverse]

theorem trim_cons_of_isBlank (hc : isBlank c = true) (text : Text) : trim (c :: text) = text.trim := by
  rw [trim, List.dropWhile_cons_of_pos hc, trim]

theorem trim_prefix_dropWhile (text : Text) : text.trim <+: text.dropWhile isBlank := by
  rw [trim, ← List.reverse_suffix, List.reverse_reverse]
  exact List.dropWhile_suffix _

theorem trim_infix (text : Text) : text.trim <:+: text :=
  (trim_prefix_dropWhile text).isInfix.trans (List.dropWhile_suffix _).isInfix

theorem not_isBlank_head?_dropWhile (text : Text) : ∀ c ∈ (text.dropWhile isBlank).head?, isBlank c = false := by
  intro c hc
  have hnot := List.head?_dropWhile_not isBlank text
  rwa [Option.mem_def.1 hc] at hnot

theorem not_isBlank_head?_trim (text : Text) : ∀ c ∈ text.trim.head?, isBlank c = false := by
  intro c hc
  obtain ⟨rest, hrest⟩ := trim_prefix_dropWhile text
  refine not_isBlank_head?_dropWhile text c ?_
  rw [← hrest, Option.mem_def, List.head?_append, Option.mem_def.1 hc, Option.some_or]

theorem not_isBlank_getLast?_trim (text : Text) : ∀ c ∈ text.trim.getLast?, isBlank c = false := by
  rw [trim, List.getLast?_reverse]
  exact not_isBlank_head?_dropWhile _

theorem trim_trim (text : Text) : text.trim.trim = text.trim :=
  trim_eq_self (not_isBlank_head?_trim text) (not_isBlank_getLast?_trim text)

/-! ## Characters of a text -/

theorem count_dropWhile_isBlank (hc : isBlank c = false) (text : Text) :
    (text.dropWhile isBlank).count c = text.count c := by
  have hnone : (text.takeWhile isBlank).count c = 0 := by
    rw [List.count_eq_zero]
    intro hmem
    have hblank := List.mem_takeWhile_imp hmem
    rw [hc] at hblank
    cases hblank
  calc (text.dropWhile isBlank).count c
      = (text.takeWhile isBlank).count c + (text.dropWhile isBlank).count c := by omega
    _ = text.count c := by rw [← List.count_append, List.takeWhile_append_dropWhile]

/-- Trimming takes white space only. -/
theorem count_trim (hc : isBlank c = false) (text : Text) : text.trim.count c = text.count c := by
  rw [trim, List.count_reverse, count_dropWhile_isBlank hc, List.count_reverse, count_dropWhile_isBlank hc]

/-! ## Replacing characters -/

/-- A replacement of characters that leaves white space alone and puts none in for another character. -/
structure KeepsBlanks (f : Char → Text) : Prop where
  blank : ∀ c, isBlank c → f c = [c]
  ne_nil : ∀ c, ¬ isBlank c → f c ≠ []
  not_blank : ∀ c, ¬ isBlank c → ∀ d ∈ f c, ¬ isBlank d

namespace KeepsBlanks

variable {f : Char → Text}

/-- The same replacement in a text that is read backwards. -/
theorem reverse (hf : KeepsBlanks f) : KeepsBlanks (List.reverse ∘ f) where
  blank c hc := by rw [Function.comp_apply, hf.blank c hc, List.reverse_singleton]
  ne_nil c hc := mt List.reverse_eq_nil_iff.1 (hf.ne_nil c hc)
  not_blank c hc d hd := hf.not_blank c hc d (List.mem_reverse.1 hd)

theorem dropWhile_flatMap (hf : KeepsBlanks f) :
    ∀ text : Text, (text.flatMap f).dropWhile isBlank = (text.dropWhile isBlank).flatMap f
  | [] => rfl
  | c :: text => by
    by_cases hc : isBlank c
    · rw [List.flatMap_cons, hf.blank c hc, List.singleton_append, List.dropWhile_cons_of_pos hc,
        List.dropWhile_cons_of_pos hc, dropWhile_flatMap hf text]
    · obtain ⟨d, rest, hd⟩ := List.exists_cons_of_ne_nil (hf.ne_nil c hc)
      have hfirst : ¬ isBlank d := hf.not_blank c hc d (hd ▸ List.mem_cons_self)
      rw [List.dropWhile_cons_of_neg hc, List.flatMap_cons, hd, List.cons_append,
        List.dropWhile_cons_of_neg hfirst]

/-- It is the same to replace characters before trimming and after it. -/
theorem trim_flatMap (hf : KeepsBlanks f) (text : Text) : trim (text.flatMap f) = text.trim.flatMap f := by
  calc trim (text.flatMap f)
      = (((text.dropWhile isBlank).flatMap f).reverse.dropWhile isBlank).reverse := by
        rw [trim, hf.dropWhile_flatMap]
    _ = (((text.dropWhile isBlank).reverse.dropWhile isBlank).flatMap (List.reverse ∘ f)).reverse := by
        rw [List.reverse_flatMap, hf.reverse.dropWhile_flatMap]
    _ = text.trim.flatMap f := by
        rw [← List.reverse_reverse ((text.dropWhile isBlank).reverse.dropWhile isBlank), ← trim,
          ← List.reverse_flatMap, List.reverse_reverse]

end KeepsBlanks

end PageTemplate.Text
