/-
Expressions and loop headers as a listing shows them, each on one line. A string is shown with its line breaks
written by letter, and numbers and words have none; so this holds of every value, not just of those that can be
written in a condition. The targets of a loop stand in its header as they are: they are identifiers, because the
reader makes names of nothing else.
-/
import PageTemplate.Program.Listing
import PageTemplate.Proofs.Expr.Recognition
import PageTemplate.Proofs.Expr.Spelling
import PageTemplate.Proofs.Line.LineBreaks

namespace PageTemplate

/-! ## Texts -/

namespace Text

theorem newline_not_mem_toDigits (n : Nat) : '\n' ∉ Nat.toDigits 16 n := by
  have hdigit : ∀ k < 16, '\n' ≠ k.digitChar := by decide
  induction n using Nat.strong_induction_on with
  | _ n ih =>
    rw [Nat.toDigits_eq_if (by decide)]
    split_ifs with hlt
    · simp [hdigit n hlt]
    · have hless : n / 16 < n := Nat.div_lt_self (by omega) (by decide)
      simp [ih _ hless, hdigit (n % 16) (Nat.mod_lt _ (by decide))]

theorem newline_not_mem_revealed (c : Char) : '\n' ∉ revealed c := by
  unfold revealed
  split
  case h_7 hne _ _ _ =>
    split_ifs
    · simpa using fun h => hne h.symm
    · simp [newline_not_mem_toDigits]
  all_goals decide

/-- A diagnostic shows a text on one line. -/
theorem newline_not_mem_shown (text : Text) : '\n' ∉ text.shown := by
  simp [shown, newline_not_mem_revealed]

/-- A quoted text has the line breaks of the text only. -/
theorem newline_not_mem_quoted {text : Text} (h : '\n' ∉ text) : '\n' ∉ text.quoted := by
  have hinside : '\n' ∉ text.flatMap fun c => if c = '"' ∨ c = '\\' then ['\\', c] else [c] := by
    rw [List.mem_flatMap]
    rintro ⟨c, hc, hmem⟩
    have hne : '\n' ≠ c := fun heq => h (heq ▸ hc)
    split_ifs at hmem <;> simp [hne] at hmem
  simp [quoted, hinside]

end Text

/-! ## Values and expressions -/

theorem newline_not_mem_shownCall {head : String} {arguments : List Text} (hhead : '\n' ∉ head.toList)
    (h : ∀ argument ∈ arguments, '\n' ∉ argument) : '\n' ∉ shownCall head arguments := by
  have harguments := Text.not_mem_intercalate (show '\n' ∉ Value.separator by decide) h
  simp [shownCall, hhead, harguments]

namespace Value

theorem newline_not_mem_text_int (i : Int64) : '\n' ∉ (Value.int i).text := by
  have hnat : ∀ n : Nat, '\n' ∉ (toString n).toList := fun n => by
    rw [Nat.toString_eq_ofList_toDigits, String.toList_ofList]
    exact newline_not_mem_digitsOf n
  rw [text]
  cases i.toInt with
  | ofNat n => exact hnat n
  | negSucc n =>
    show '\n' ∉ ("-" ++ toString (n + 1)).toList
    rw [String.toList_append]
    exact List.not_mem_append (by decide +kernel) (hnat (n + 1))

theorem newline_not_mem_text_bool (b : Bool) : '\n' ∉ (Value.bool b).text := by
  cases b <;> decide +kernel

mutual

/-- A listing shows a value on one line, whatever its strings are. -/
theorem newline_not_mem_shown : ∀ v : Value, '\n' ∉ v.shown
  | .null => by decide +kernel
  | .bool b => by
    rw [shown]
    exact newline_not_mem_shownCall (by decide +kernel) (List.forall_mem_singleton.2 (newline_not_mem_text_bool b))
  | .int i => by
    rw [shown]
    exact newline_not_mem_shownCall (by decide +kernel) (List.forall_mem_singleton.2 (newline_not_mem_text_int i))
  | .float x => by
    rw [shown]
    exact newline_not_mem_shownCall (by decide +kernel) (List.forall_mem_singleton.2 (newline_not_mem_text_float x))
  | .str s => by
    rw [shown]
    exact newline_not_mem_shownCall (by decide +kernel) (List.forall_mem_singleton.2 (Text.newline_not_mem_shown _))
  | .list items => by
    have hitems : '\n' ∉ separator.intercalate (shownItems items) :=
      Text.not_mem_intercalate (by decide) fun _ hpart => newline_not_mem_shownItems hpart
    rw [shown]
    exact newline_not_mem_shownCall (by decide +kernel) (List.forall_mem_singleton.2 (by simp [hitems]))
  | .map fields => by
    have hfields : '\n' ∉ separator.intercalate (shownFields fields) :=
      Text.not_mem_intercalate (by decide) fun _ hpart => newline_not_mem_shownFields hpart
    rw [shown]
    exact newline_not_mem_shownCall (by decide +kernel) (List.forall_mem_singleton.2 (by simp [hfields]))

theorem newline_not_mem_shownItems : ∀ {items : List Value} {part : Text}, part ∈ shownItems items → '\n' ∉ part
  | [], _, h => by
    rw [shownItems] at h
    cases h
  | item :: rest, _, h => by
    rw [shownItems] at h
    rcases List.mem_cons.1 h with rfl | h
    · exact newline_not_mem_shown item
    · exact newline_not_mem_shownItems h

theorem newline_not_mem_shownFields : ∀ {fields : List (String × Value)} {part : Text},
    part ∈ shownFields fields → '\n' ∉ part
  | [], _, h => by
    rw [shownFields] at h
    cases h
  | (key, value) :: rest, _, h => by
    rw [shownFields] at h
    rcases List.mem_cons.1 h with rfl | h
    · simp [Text.newline_not_mem_shown, newline_not_mem_shown value]
    · exact newline_not_mem_shownFields h

end

end Value

theorem Comparison.newline_not_mem_shown : ∀ c : Comparison, '\n' ∉ c.shown.toList
  | .relation .eq | .relation .ne | .relation .lt | .relation .le | .relation .gt | .relation .ge | .within
  | .notWithin => by decide +kernel

/-- A listing shows an expression on one line. -/
theorem Expr.newline_not_mem_shown : ∀ e : Expr, '\n' ∉ e.shown
  | .literal v => newline_not_mem_shownCall (by decide +kernel) (by simp [v.newline_not_mem_shown])
  | .name n => newline_not_mem_shownCall (by decide +kernel) (by simp [Text.newline_not_mem_shown])
  | .attribute base n =>
    newline_not_mem_shownCall (by decide +kernel) (by simp [base.newline_not_mem_shown, Text.newline_not_mem_shown])
  | .length e | .not e => newline_not_mem_shownCall (by decide +kernel) (by simp [e.newline_not_mem_shown])
  | .and left right | .or left right =>
    newline_not_mem_shownCall (by decide +kernel)
      (by simp [left.newline_not_mem_shown, right.newline_not_mem_shown])
  | .compare left c right =>
    newline_not_mem_shownCall (by decide +kernel)
      (by simp [left.newline_not_mem_shown, c.newline_not_mem_shown, right.newline_not_mem_shown])

/-! ## Loop headers -/

namespace Symbol

variable {c : Char} {text after : Text} {n : String}

/-- A name that begins with a character is an identifier. -/
theorem isIdentifier_of_next (h : next c text = .ok (some (.name n), after)) : IsIdentifier n.toList := by
  by_cases hmark : c ∈ marks
  · -- no blank, bracket, sign or mark is a name
    simp only [marks, List.mem_cons, List.not_mem_nil, or_false] at hmark
    rcases hmark with rfl | rfl | rfl | rfl | rfl | rfl | rfl | rfl | rfl | rfl | rfl
    all_goals
      simp only [next] at h
      try cases h
      try (split at h <;> cases h)
  rw [next_of_not_mem_marks hmark] at h
  split_ifs at h with hquote hdigit hstart
  · split at h <;> cases h
  · obtain ⟨s, hs, heq⟩ := bind_eq_ok.1 h
    cases heq
    -- a number is an integer or a double
    unfold number at hs
    dsimp only at hs
    split_ifs at hs
    · split at hs <;> cases hs
    · cases hs
  · cases h
    rw [String.toList_ofList]
    exact ⟨List.cons_ne_nil _ _, fun d hd => by cases hd; exact hstart, fun d hd => List.mem_takeWhile_imp hd⟩

/-- All names of a text are identifiers. -/
theorem isIdentifier_of_read {symbols : List Symbol} (h : read text = .ok symbols) :
    ∀ n, .name n ∈ symbols → IsIdentifier n.toList := by
  fun_induction read text generalizing symbols with
  | case1 =>
    cases h
    simp
  | case2 => cases h
  | case3 c text symbol after hnext ih =>
    obtain ⟨more, hmore, rfl⟩ := map_eq_ok.1 h
    intro n hn
    rcases List.mem_append.1 hn with hfirst | hn
    · rw [Option.mem_toList.1 hfirst] at hnext
      exact isIdentifier_of_next hnext
    · exact ih hmore n hn

end Symbol

theorem Expr.mem_moreSymbols {n : String} {names : List String} (h : n ∈ names) : .name n ∈ moreSymbols names :=
  List.mem_flatMap.2 ⟨n, h, by simp⟩

/-- A listing shows the header of a loop on one line. -/
theorem LoopHeader.newline_not_mem_listed {text : Text} {header : LoopHeader}
    (h : Expr.parseHeader text = .ok header) : '\n' ∉ header.listed := by
  obtain ⟨symbols, hsymbols, hheader⟩ := bind_eq_ok.1 h
  have hnames := Symbol.isIdentifier_of_read hsymbols
  cases Expr.headerOfSymbols_eq_ok_iff.1 hheader with
  | @intro first more source s _ _ =>
    have htargets : ∀ target ∈ (first :: more).map String.toList, '\n' ∉ target := by
      intro target htarget
      obtain ⟨n, hn, rfl⟩ := List.mem_map.1 htarget
      refine (hnames n ?_).not_mem.2
      rcases List.mem_cons.1 hn with rfl | hn
      · simp
      · simp [Expr.mem_moreSymbols hn]
    have hlist := Text.not_mem_intercalate (show '\n' ∉ Value.separator by decide) htargets
    have hfront := List.not_mem_append (show '\n' ∉ "for ".toList by decide +kernel) hlist
    have hword := List.not_mem_append hfront (show '\n' ∉ " in ".toList by decide +kernel)
    exact List.not_mem_append (List.not_mem_append hword source.newline_not_mem_shown) (by decide)

end PageTemplate
