/-
Compiling lines, line by line. A line with both marks of a tag is a control line, or it is malformed; all
other lines are literal. Lines are compiled just when none is malformed, each to its own statement;
otherwise the first malformed line is reported, with its number and its text.
-/
import Mathlib.Tactic.Common
import PageTemplate.Line.Compile
import PageTemplate.Proofs.Outcome
import PageTemplate.Proofs.Render.Directives
import PageTemplate.Proofs.Text.Trimming

namespace PageTemplate

/-! ## Parts of a text -/

namespace Text

/-- A cut at the last place loses nothing but the pattern itself. -/
theorem eq_append_of_cutLast? {pattern : Text} :
    ∀ {text before after : Text}, cutLast? pattern text = some (before, after) →
      text = before ++ pattern ++ after
  | [], _, _, h => by
    obtain ⟨after, hafter, heq⟩ := Option.map_eq_some_iff.1 h
    cases heq
    exact eq_append_of_afterPrefix? hafter
  | c :: text, _, _, h => by
    rw [cutLast?] at h
    split at h
    · rename_i before after hcut
      cases h
      rw [List.cons_append, List.cons_append, ← eq_append_of_cutLast? hcut]
    · obtain ⟨after, hafter, heq⟩ := Option.map_eq_some_iff.1 h
      cases heq
      exact eq_append_of_afterPrefix? hafter

/-- A text falls into what stands before the last place of a pattern, the pattern, and the rest. -/
structure LastPlace (pattern text before after : Text) : Prop where
  whole : text = before ++ pattern ++ after
  rightmost : ∀ before' after', text = before' ++ pattern ++ after' → before'.length ≤ before.length

/-- Where a pattern stands in a text, the text can be cut at the last place. -/
theorem cutLast?_isSome (pattern after : Text) : ∀ before, (cutLast? pattern (before ++ pattern ++ after)).isSome
  | [] => by
    have hstart := afterPrefix?_append after pattern
    rw [List.nil_append]
    cases htext : pattern ++ after with
    | nil => rw [htext] at hstart; rw [cutLast?, hstart]; rfl
    | cons c text =>
      rw [htext] at hstart
      rw [cutLast?, hstart]
      split <;> rfl
  | c :: before => by
    obtain ⟨parts, hparts⟩ := Option.isSome_iff_exists.1 (cutLast?_isSome pattern after before)
    rw [List.cons_append, List.cons_append, cutLast?, hparts]
    rfl

theorem length_le_of_cutLast? {pattern : Text} :
    ∀ {text before after before' after' : Text}, cutLast? pattern text = some (before, after) →
      text = before' ++ pattern ++ after' → before'.length ≤ before.length
  | [], _, _, before', after', _, htext => by
    rw [List.append_assoc] at htext
    rw [(List.append_eq_nil_iff.1 htext.symm).1]
    exact Nat.zero_le _
  | c :: text, _, _, [], _, _, _ => Nat.zero_le _
  | c :: text, before, after, d :: before', after', h, htext => by
    rw [List.cons_append, List.cons_append] at htext
    obtain ⟨rfl, hbehind⟩ := List.cons.inj htext
    obtain ⟨⟨b, a⟩, hcut⟩ := Option.isSome_iff_exists.1 (cutLast?_isSome pattern after' before')
    rw [← hbehind] at hcut
    rw [cutLast?, hcut] at h
    cases h
    exact Nat.succ_le_succ (length_le_of_cutLast? hcut hbehind)

/-- A text is cut at the last place of the pattern. -/
theorem cutLast?_eq_some_iff {pattern text before after : Text} :
    cutLast? pattern text = some (before, after) ↔ LastPlace pattern text before after := by
  constructor
  · intro h
    exact ⟨eq_append_of_cutLast? h, fun before' after' => length_le_of_cutLast? h⟩
  · rintro ⟨rfl, hrightmost⟩
    obtain ⟨⟨b, a⟩, hcut⟩ := Option.isSome_iff_exists.1 (cutLast?_isSome pattern after before)
    have hwhole := eq_append_of_cutLast? hcut
    have hlength := Nat.le_antisymm (hrightmost b a hwhole) (length_le_of_cutLast? hcut rfl)
    rw [List.append_assoc, List.append_assoc] at hwhole
    obtain ⟨rfl, hrest⟩ := List.append_inj hwhole hlength.symm
    rw [hcut, (List.append_cancel_left hrest : after = a)]

end Text

namespace Statement

/-- Both marks of a tag are in the line. -/
def Tagged (line : Text) : Prop := tagOpen <:+: line ∧ tagClose <:+: line

instance (line : Text) : Decidable (Tagged line) :=
  inferInstanceAs (Decidable (tagOpen <:+: line ∧ tagClose <:+: line))

/-- The line has both marks of a tag but is no control line, for the reason `fault`. -/
structure Malformed (line : Text) (fault : GrammarFault) : Prop where
  tagged : Tagged line
  reason : readControl line = .error fault

/-- The statement that a line stands for, its indents apart. -/
inductive Reads : Text → Statement → Prop
  | literal {line : Text} {l : Literal} : ¬ Tagged line → l.content = line → Reads line (.literal l)
  | control {line : Text} {c : Control} :
      Tagged line → readControl line = .ok (c.keyword, c.condition) → Reads line (.control c)

variable {buffer : String} {number : Nat} {indent : Int32} {line : Text} {e : TemplateError}

theorem Reads.not_malformed {statement : Statement} (h : Reads line statement) {fault : GrammarFault} :
    ¬ Malformed line fault := by
  intro hfault
  cases h with
  | literal hliteral => exact hliteral hfault.tagged
  | control _ hread =>
    rw [hfault.reason] at hread
    cases hread

theorem isControlLine_eq_true_iff : isControlLine line = true ↔ tagOpen <:+: line ∧ tagClose <:+: line := by
  unfold isControlLine
  rw [Bool.and_eq_true, Text.contains_iff, Text.contains_iff]

/-! ## Conditions -/

/-- The condition of a control line is a part of the line. -/
theorem infix_of_readControl {keyword : Keyword} {condition : Text}
    (h : readControl line = .ok (keyword, some condition)) : condition <:+: line := by
  have htag : ∃ word, splitTag? line = some (word, some condition) := by
    unfold readControl at h
    split at h
    · cases h
    · rename_i word condition' hsplit
      dsimp only at h
      split at h
      · cases h
      · split at h
        · cases h
        · cases h
        · cases h
          exact ⟨word, hsplit⟩
  obtain ⟨word, hsplit⟩ := htag
  simp only [splitTag?, Option.bind_eq_bind, Option.bind_eq_some_iff, Prod.exists] at hsplit
  obtain ⟨before, rest, hopen, inner, after, hclose, heq⟩ := hsplit
  split at heq
  · cases heq
  · split_ifs at heq
    · cases heq
    · cases heq
      rw [Text.eq_append_of_cut? hopen, Text.eq_append_of_cutLast? hclose]
      refine (Text.trim_infix _).trans ((List.dropWhile_suffix _).isInfix.trans ?_)
      exact ⟨before ++ (tagOpen ++ [' ']), ' ' :: tagClose ++ after, by simp⟩

/-! ## One line -/

theorem ofLine_of_not_tagged (h : ¬ Tagged line) :
    ofLine buffer number indent line = .ok (.literal ⟨line, indent, indent, buffer⟩) := by
  unfold ofLine
  rw [if_neg fun hcontrol => h (isControlLine_eq_true_iff.1 hcontrol)]

theorem ofLine_of_malformed {fault : GrammarFault} (h : Malformed line fault) :
    ofLine buffer number indent line = .error (.grammar number (String.ofList line) fault) := by
  unfold ofLine
  rw [if_pos (isControlLine_eq_true_iff.2 h.tagged), h.reason]

/-- A line is read as a statement, or it is malformed. -/
theorem ofLine_cases (buffer : String) (number : Nat) (indent : Int32) (line : Text) :
    (∃ statement, ofLine buffer number indent line = .ok statement ∧ Reads line statement) ∨
      ∃ fault, Malformed line fault := by
  by_cases htagged : Tagged line
  · cases hread : readControl line with
    | error fault => exact .inr ⟨fault, htagged, hread⟩
    | ok read =>
      obtain ⟨keyword, condition⟩ := read
      refine .inl ⟨.control ⟨keyword, condition, indent + keyword.ownShift, indent + keyword.nextShift⟩,
        ?_, .control htagged hread⟩
      unfold ofLine
      rw [if_pos (isControlLine_eq_true_iff.2 htagged), hread]
  · exact .inl ⟨_, ofLine_of_not_tagged htagged, .literal htagged rfl⟩

/-! ## All lines -/

/-- Lines without tags are statements as they are, all at the indent of the first one. -/
theorem ofLinesFrom_literal :
    ∀ {lines : List Text} (number : Nat), (∀ line ∈ lines, ¬ (tagOpen <:+: line ∧ tagClose <:+: line)) →
      ofLinesFrom buffer number indent lines =
        .ok (lines.map fun line => .literal ⟨line, indent, indent, buffer⟩)
  | [], _, _ => rfl
  | line :: rest, number, h => by
    obtain ⟨hline, hrest⟩ := List.forall_mem_cons.1 h
    rw [ofLinesFrom, ofLine_of_not_tagged hline, ok_bind]
    show (ofLinesFrom buffer (number + 1) indent rest >>= _) = _
    rw [ofLinesFrom_literal (number + 1) hrest]
    rfl

/-- Lines compile to one statement each, or a line is the first malformed one. -/
theorem ofLinesFrom_cases (buffer : String) :
    ∀ (lines : List Text) (number : Nat) (indent : Int32),
      (∃ statements, ofLinesFrom buffer number indent lines = .ok statements ∧
        List.Forall₂ Reads lines statements) ∨
      ∃ before line after fault, lines = before ++ line :: after ∧
        (∀ l ∈ before, ∀ fault, ¬ Malformed l fault) ∧ Malformed line fault
  | [], _, _ => .inl ⟨[], rfl, .nil⟩
  | line :: rest, number, indent => by
    rcases ofLine_cases buffer number indent line with ⟨statement, hline, hreads⟩ | ⟨fault, hfault⟩
    · rcases ofLinesFrom_cases buffer rest (number + 1) statement.nextIndent with
        ⟨statements, hrest, hall⟩ | ⟨before, line', after, fault, rfl, hbefore, hfault⟩
      · refine .inl ⟨statement :: statements, ?_, .cons hreads hall⟩
        rw [ofLinesFrom, hline, ok_bind, hrest]
        rfl
      · refine .inr ⟨line :: before, line', after, fault, rfl, ?_, hfault⟩
        refine List.forall_mem_cons.2 ⟨fun fault' hfault' => ?_, hbefore⟩
        rw [ofLine_of_malformed hfault'] at hline
        cases hline
    · exact .inr ⟨[], line, rest, fault, rfl, List.forall_mem_nil _, hfault⟩

theorem ofLinesFrom_of_malformed {after : List Text} {fault : GrammarFault} (hfault : Malformed line fault) :
    ∀ {before : List Text} (number : Nat) (indent : Int32), (∀ l ∈ before, ∀ fault, ¬ Malformed l fault) →
      ofLinesFrom buffer number indent (before ++ line :: after) =
        .error (.grammar (number + before.length) (String.ofList line) fault)
  | [], number, indent, _ => by
    rw [List.nil_append, ofLinesFrom, ofLine_of_malformed hfault]
    rfl
  | first :: before, number, indent, h => by
    obtain ⟨hfirst, hbefore⟩ := List.forall_mem_cons.1 h
    rcases ofLine_cases buffer number indent first with ⟨statement, hline, -⟩ | ⟨fault', hfault'⟩
    · rw [List.cons_append, ofLinesFrom, hline, ok_bind,
        ofLinesFrom_of_malformed hfault (number + 1) statement.nextIndent hbefore, error_bind,
        List.length_cons, Nat.add_right_comm, Nat.add_assoc]
    · exact absurd hfault' (hfirst fault')

/-- If no line is malformed, the lines compile to one statement each. -/
theorem exists_ofLines {lines : List Text} (h : ∀ line ∈ lines, ∀ fault, ¬ Malformed line fault) :
    ∃ statements, ofLines buffer lines = .ok statements ∧ List.Forall₂ Reads lines statements := by
  rcases ofLinesFrom_cases buffer lines 1 0 with hok | ⟨before, line, after, fault, rfl, -, hfault⟩
  · exact hok
  · exact absurd hfault (h line (by simp) fault)

theorem reads_of_ofLines {lines : List Text} {statements : List Statement}
    (h : ofLines buffer lines = .ok statements) : List.Forall₂ Reads lines statements := by
  rcases ofLinesFrom_cases buffer lines 1 0 with
    ⟨statements', hok, hreads⟩ | ⟨before, line, after, fault, rfl, hbefore, hfault⟩
  · rw [ofLines, hok] at h
    cases h
    exact hreads
  · rw [ofLines, ofLinesFrom_of_malformed hfault 1 0 hbefore] at h
    cases h

/-- The first malformed line is reported, with its number and its text. -/
theorem ofLines_of_malformed {before after : List Text} {fault : GrammarFault}
    (hbefore : ∀ l ∈ before, ∀ fault, ¬ Malformed l fault) (hfault : Malformed line fault) :
    ofLines buffer (before ++ line :: after) =
      .error (.grammar (before.length + 1) (String.ofList line) fault) := by
  rw [ofLines, ofLinesFrom_of_malformed hfault 1 0 hbefore, Nat.add_comm]

end Statement

end PageTemplate
