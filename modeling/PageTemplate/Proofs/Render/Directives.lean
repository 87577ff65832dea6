/-
The directives of a source, said without a scanner: each begins at the first opening mark of what is
left of the source and ends at the first closing mark after it.
-/
import PageTemplate.Render.Inclusion

namespace PageTemplate

/-! ## The first place of a pattern -/

namespace Text

/-- A text falls into what stands before the first place of a pattern, the pattern, and the rest. -/
structure FirstPlace (pattern text before after : Text) : Prop where
  whole : text = before ++ pattern ++ after
  leftmost : ∀ before' after', text = before' ++ pattern ++ after' → before.length ≤ before'.length

theorem afterPrefix?_append (after : Text) : ∀ pattern, afterPrefix? pattern (pattern ++ after) = some after
  | [] => by cases after <;> rfl
  | p :: pattern => by
    rw [List.cons_append, afterPrefix?, if_pos rfl]
    exact afterPrefix?_append after pattern

/-- Where a pattern stands in a text, the text can be cut. -/
theorem cut?_isSome (pattern after : Text) : ∀ before, (cut? pattern (before ++ pattern ++ after)).isSome
  | [] => by
    have hstart := afterPrefix?_append after pattern
    rw [List.nil_append]
    cases htext : pattern ++ after with
    | nil => rw [htext] at hstart; rw [cut?, hstart]; rfl
    | cons c text => rw [htext] at hstart; rw [cut?, hstart]; rfl
  | c :: before => by
    rw [List.cons_append, List.cons_append, cut?]
    split
    · rfl
    · rw [Option.isSome_map]; exact cut?_isSome pattern after before

/-- A text contains a pattern just where it is a part of the text. -/
theorem contains_iff {pattern text : Text} : contains pattern text = true ↔ pattern <:+: text := by
  constructor
  · intro h
    obtain ⟨⟨before, after⟩, hcut⟩ := Option.isSome_iff_exists.1 h
    exact ⟨before, after, (eq_append_of_cut? hcut).symm⟩
  · rintro ⟨before, after, rfl⟩
    exact cut?_isSome pattern after before

theorem length_le_of_cut? {pattern : Text} :
    ∀ {text before after before' after' : Text}, cut? pattern text = some (before, after) →
      text = before' ++ pattern ++ after' → before.length ≤ before'.length
  | [], before, after, before', after', h, _ => by
    obtain ⟨_, -, heq⟩ := Option.map_eq_some_iff.1 h
    cases heq
    exact Nat.zero_le _
  | c :: text, before, after, before', after', h, htext => by
    rw [cut?] at h
    split at h
    · cases h; exact Nat.zero_le _
    · rename_i hnone
      obtain ⟨⟨b, a⟩, hcut, heq⟩ := Option.map_eq_some_iff.1 h
      cases heq
      cases before' with
      | nil => rw [htext, List.nil_append, afterPrefix?_append] at hnone; cases hnone
      | cons d before' =>
        rw [List.cons_append, List.cons_append] at htext
        exact Nat.succ_le_succ (length_le_of_cut? hcut (List.cons.inj htext).2)

/-- A text is cut at the first place of the pattern. -/
theorem cut?_eq_some_iff {pattern text before after : Text} :
    cut? pattern text = some (before, after) ↔ FirstPlace pattern text before after := by
  constructor
  · intro h
    exact ⟨eq_append_of_cut? h, fun before' after' => length_le_of_cut? h⟩
  · rintro ⟨rfl, hleftmost⟩
    obtain ⟨⟨b, a⟩, hcut⟩ := Option.isSome_iff_exists.1 (cut?_isSome pattern after before)
    have hwhole := eq_append_of_cut? hcut
    have hlength := Nat.le_antisymm (length_le_of_cut? hcut rfl) (hleftmost b a hwhole)
    rw [List.append_assoc, List.append_assoc] at hwhole
    obtain ⟨rfl, hrest⟩ := List.append_inj hwhole hlength.symm
    rw [hcut, (List.append_cancel_left hrest : after = a)]

end Text

/-! ## Directives -/

namespace SourcePart

open Text

/-- The trimmed names in the directives of a source, in order: the directives that lie leftmost, none
of which overlaps another. -/
inductive Directives : Text → List String → Prop
  | none {source : Text} :
      (∀ before name after, source ≠ before ++ opening ++ (name ++ closing ++ after)) →
      Directives source []
  | first {source before rest name after : Text} {names : List String} :
      FirstPlace opening source before rest → FirstPlace closing rest name after →
      Directives after names → Directives source (String.ofList name.trim :: names)

theorem mem_inclusions {source : Text} {m : String} :
    m ∈ inclusions source ↔
      ∃ t, .inclusion t ∈ ofSource source ∧ String.ofList t = m := by
  rw [inclusions, List.mem_filterMap]
  constructor
  · rintro ⟨part, hpart, hm⟩
    cases part with
    | text => cases hm
    | inclusion t => cases hm; exact ⟨t, hpart, rfl⟩
  · rintro ⟨t, ht, rfl⟩
    exact ⟨.inclusion t, ht, rfl⟩

theorem first?_eq_some_iff {source before name after : Text} :
    first? source = some (before, name, after) ↔
      ∃ rest inner, FirstPlace opening source before rest ∧ FirstPlace closing rest inner after ∧
        inner.trim = name := by
  simp only [first?, Option.bind_eq_bind, Option.bind_eq_some_iff, Option.pure_def, Option.some.injEq,
    Prod.mk.injEq, Prod.exists, cut?_eq_some_iff]
  constructor
  · rintro ⟨before', rest, hopen, inner, after', hclose, rfl, rfl, rfl⟩
    exact ⟨rest, inner, hopen, hclose, rfl⟩
  · rintro ⟨rest, inner, hopen, hclose, rfl⟩
    exact ⟨before, rest, hopen, inner, after, hclose, rfl, rfl, rfl⟩

theorem first?_of_firstPlace {source before rest name after : Text}
    (hopen : FirstPlace opening source before rest) (hclose : FirstPlace closing rest name after) :
    first? source = some (before, name.trim, after) :=
  first?_eq_some_iff.2 ⟨rest, name, hopen, hclose, rfl⟩

/-- No directive is found just where no opening mark has a closing mark behind it. -/
theorem first?_eq_none_iff {source : Text} :
    first? source = none ↔
      ∀ before name after, source ≠ before ++ opening ++ (name ++ closing ++ after) := by
  constructor
  · rintro h before name after hsource
    have hsome := cut?_isSome opening (name ++ closing ++ after) before
    rw [← hsource] at hsome
    obtain ⟨⟨b, rest⟩, hopen⟩ := Option.isSome_iff_exists.1 hsome
    -- the first opening mark does not lie behind this one, so this closing mark is in the rest
    have hfirst := cut?_eq_some_iff.1 hopen
    have hlength : (b ++ opening).length ≤ (before ++ opening).length := by
      rw [List.length_append, List.length_append]
      exact Nat.add_le_add_right (hfirst.leftmost before _ hsource) _
    obtain ⟨skipped, hskipped⟩ := List.prefix_of_prefix_length_le
      ⟨rest, hfirst.whole.symm⟩ ⟨name ++ closing ++ after, hsource.symm⟩ hlength
    have hrest : rest = (skipped ++ name) ++ closing ++ after := by
      refine List.append_cancel_left
        (hfirst.whole.symm.trans ?_ : (b ++ opening) ++ rest = (b ++ opening) ++ _)
      rw [hsource, ← hskipped]
      simp only [List.append_assoc]
    have hsome := cut?_isSome closing after (skipped ++ name)
    rw [← hrest] at hsome
    obtain ⟨⟨inner, rest'⟩, hclose⟩ := Option.isSome_iff_exists.1 hsome
    have hfound := first?_of_firstPlace hfirst (cut?_eq_some_iff.1 hclose)
    rw [h] at hfound
    cases hfound
  · intro h
    cases hfirst : first? source with
    | none => rfl
    | some parts =>
      obtain ⟨before, name, after⟩ := parts
      obtain ⟨rest, inner, hopen, hclose, -⟩ := first?_eq_some_iff.1 hfirst
      exact absurd (hclose.whole ▸ hopen.whole) (h before inner after)

/-- A source without directives is one part of text. -/
theorem ofSource_eq_text {source : Text}
    (h : ∀ before name after, source ≠ before ++ opening ++ (name ++ closing ++ after)) :
    ofSource source = [.text source] := by
  have hfirst := first?_eq_none_iff.2 h
  rw [ofSource]
  split
  · rename_i hsome; rw [hfirst] at hsome; cases hsome
  · rfl

theorem ofSource_of_first? {source before name after : Text}
    (h : first? source = some (before, name, after)) :
    ofSource source = .text before :: .inclusion name :: ofSource after := by
  rw [ofSource]
  split
  · rename_i hfirst; rw [h] at hfirst; cases hfirst; rfl
  · rename_i hfirst; rw [h] at hfirst; cases hfirst

/-- Behind a text without braces an opening mark is the first one. -/
theorem firstPlace_opening {before : Text} (hbefore : '{' ∉ before) (after : Text) :
    FirstPlace opening (before ++ opening ++ after) before after := by
  refine ⟨rfl, fun before' after' h => Nat.le_of_not_lt fun hlt => ?_⟩
  rw [List.append_assoc, List.append_assoc] at h
  rcases List.append_eq_append_iff.1 h with ⟨skipped, rfl, -⟩ | ⟨skipped, rfl, hrest⟩
  · exact absurd hlt (by simp)
  · cases skipped with
    | nil => exact absurd hlt (by simp)
    | cons c skipped =>
      obtain ⟨rfl, -⟩ := List.cons.inj hrest
      exact hbefore (by simp)

/-- Behind a text without closing marks a closing mark is the first one: no mark begins in another one. -/
theorem firstPlace_closing {name : Text} (hname : ¬ closing <:+: name) (after : Text) :
    FirstPlace closing (name ++ closing ++ after) name after := by
  refine ⟨rfl, fun before after' h => Nat.le_of_not_lt fun hlt => ?_⟩
  rw [List.append_assoc, List.append_assoc] at h
  rcases List.append_eq_append_iff.1 h with ⟨skipped, rfl, -⟩ | ⟨skipped, rfl, hrest⟩
  · exact absurd hlt (by simp)
  · -- a mark that begins in the name ends in it: no end of a mark is the beginning of one
    match skipped, hrest with
    | [], _ => exact absurd hlt (by simp)
    | [_], hrest | [_, _], hrest => simp [closing] at hrest
    | a :: b :: c :: skipped, hrest =>
      simp only [closing, List.cons_append, List.cons.injEq] at hrest
      obtain ⟨rfl, rfl, rfl, -⟩ := hrest
      exact hname ⟨before, skipped, by simp [closing]⟩

/-- A source with one directive between texts without braces. -/
theorem ofSource_of_one {before name after : Text} (hbefore : '{' ∉ before) (hafter : '{' ∉ after)
    (hname : ¬ closing <:+: name) :
    ofSource (before ++ opening ++ (name ++ closing ++ after)) =
      [.text before, .inclusion name.trim, .text after] := by
  have hfirst := first?_of_firstPlace (firstPlace_opening hbefore _) (firstPlace_closing hname after)
  rw [ofSource_of_first? hfirst, ofSource_eq_text]
  rintro before' rest after' rfl
  exact hafter (by simp [opening])

/-- The scan finds exactly the directives of a source. -/
theorem directives_iff {source : Text} {names : List String} :
    Directives source names ↔ inclusions source = names := by
  constructor
  · intro h
    induction h with
    | none h =>
      have hfirst := first?_eq_none_iff.2 h
      rw [inclusions, ofSource]
      split
      · rename_i heq; rw [hfirst] at heq; cases heq
      · rfl
    | first hopen hclose _ ih =>
      have hfirst := first?_of_firstPlace hopen hclose
      rw [inclusions, ofSource]
      split
      · rename_i heq; rw [hfirst] at heq; cases heq; rw [← ih]; rfl
      · rename_i heq; rw [hfirst] at heq; cases heq
  · rintro rfl
    rw [inclusions]
    fun_induction ofSource source with
    | case1 source before name after h ih =>
      obtain ⟨rest, inner, hopen, hclose, rfl⟩ := first?_eq_some_iff.1 h
      exact .first hopen hclose ih
    | case2 source h => exact .none (first?_eq_none_iff.1 h)

example : inclusions "x\x7b% include  a %\x7d\x7b% include b %\x7d %\x7d".toList = ["a", "b"] := by
  decide +kernel

end SourcePart

end PageTemplate
