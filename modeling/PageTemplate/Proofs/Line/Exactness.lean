/-
Compiling all lines of a template. It succeeds just if every line with both marks of a tag has the tag of a control
line; if not, the first line that has none is reported, whatever stands behind it.

The running indent is a machine integer, and a line moves it by at most two. So it does not wrap on fewer lines than
2 ^ 29, and the indent of a statement is what the statements before it add, and its own shift. The invariant of the
run is that the indent leaves room for two on every line that is still to come.
-/
import Mathlib
import PageTemplate.Proofs.Line.ControlLines

namespace PageTemplate

namespace Statement

/-! ## One statement -/

/-- How far the statement is moved against the running indent. -/
def ownShift : Statement → Int32
  | .literal _ => 0
  | .control c => c.keyword.ownShift

/-- How far what follows the statement is moved against the running indent. -/
def nextShift : Statement → Int32
  | .literal _ => 0
  | .control c => c.keyword.nextShift

/-- What a line is compiled to, apart from the indents: itself, if it lacks one of the marks, or else the keyword
and the condition of its tag. -/
inductive Compiled (buffer : String) : Text → Statement → Prop
  | literal {line : Text} (indent nextIndent : Int32) :
      ¬ Tagged line → Compiled buffer line (.literal ⟨line, indent, nextIndent, buffer⟩)
  | control {line : Text} {t : Tag} {c : Control} :
      t.In line → t.Controls c.keyword → c.condition = t.condition → Compiled buffer line (.control c)

variable {buffer : String} {number : Nat} {indent : Int32} {line : Text} {s : Statement}

theorem compiled_of_ofLine (h : ofLine buffer number indent line = .ok s) : Compiled buffer line s := by
  cases ofLine_eq_iff.1 h with
  | literal hliteral => exact .literal _ _ hliteral
  | control ht hcontrols => exact .control ht hcontrols rfl

theorem indents_of_ofLine (h : ofLine buffer number indent line = .ok s) :
    s.indent = indent + s.ownShift ∧ s.nextIndent = indent + s.nextShift := by
  cases ofLine_eq_iff.1 h with
  | literal => exact ⟨(Int32.add_zero _).symm, (Int32.add_zero _).symm⟩
  | control => exact ⟨rfl, rfl⟩

/-! ## The running indent -/

/-- A small shift of an indent far from the ends of the machine integers does not wrap. -/
theorem toInt_add_shift {shift : Int32} (hindent : indent.toInt.natAbs ≤ 2 ^ 30) (hshift : shift.toInt.natAbs ≤ 2) :
    (indent + shift).toInt = indent.toInt + shift.toInt := by
  rw [Int32.toInt_add]
  exact Int.bmod_eq_of_le (by omega) (by omega)

theorem natAbs_shifts_of_keyword : ∀ keyword : Keyword,
    keyword.ownShift.toInt.natAbs ≤ 2 ∧ keyword.nextShift.toInt.natAbs ≤ 2
  | .ifBlock | .elifBranch | .elseBranch | .forLoop | .endBlock => by decide

theorem natAbs_shifts : ∀ s : Statement, s.ownShift.toInt.natAbs ≤ 2 ∧ s.nextShift.toInt.natAbs ≤ 2
  | .literal _ => by simp [ownShift, nextShift]
  | .control c => natAbs_shifts_of_keyword c.keyword

/-- What statements add to the running indent. -/
def advance (statements : List Statement) : Int := (statements.map fun s => s.nextShift.toInt).sum

theorem ofLinesFrom_cons_eq_ok_iff {lines : List Text} {statements : List Statement} :
    ofLinesFrom buffer number indent (line :: lines) = .ok statements ↔
      ∃ s more, ofLine buffer number indent line = .ok s ∧
        ofLinesFrom buffer (number + 1) s.nextIndent lines = .ok more ∧ statements = s :: more := by
  rw [ofLinesFrom, bind_eq_ok]
  constructor
  · rintro ⟨s, hs, hrest⟩
    obtain ⟨more, hmore, heq⟩ := bind_eq_ok.1 hrest
    cases heq
    exact ⟨s, more, hs, hmore, rfl⟩
  · rintro ⟨s, more, hs, hmore, rfl⟩
    exact ⟨s, hs, bind_eq_ok.2 ⟨more, hmore, rfl⟩⟩

/-- The step lemma: a line that is compiled moves the indent by the shifts of its statement. -/
theorem toInt_indents_of_ofLine (h : ofLine buffer number indent line = .ok s)
    (hindent : indent.toInt.natAbs ≤ 2 ^ 30) :
    s.indent.toInt = indent.toInt + s.ownShift.toInt ∧ s.nextIndent.toInt = indent.toInt + s.nextShift.toInt := by
  obtain ⟨hown, hnext⟩ := indents_of_ofLine h
  rw [hown, hnext]
  exact ⟨toInt_add_shift hindent s.natAbs_shifts.1, toInt_add_shift hindent s.natAbs_shifts.2⟩

/-- The run lemma: no indent wraps as long as the first one is far enough from the ends of the machine integers for
so many lines. -/
theorem toInt_indent_of_ofLinesFrom : ∀ {lines : List Text} {number : Nat} {indent : Int32}
    {statements : List Statement}, ofLinesFrom buffer number indent lines = .ok statements →
    indent.toInt.natAbs + 2 * lines.length ≤ 2 ^ 30 → ∀ before s after, statements = before ++ s :: after →
      s.indent.toInt = indent.toInt + advance before + s.ownShift.toInt
  | [], _, _, _, h, _, before, s, after, heq => by
    cases h
    exact absurd heq (by simp)
  | line :: lines, number, indent, _, h, hbound, before, s, after, heq => by
    obtain ⟨first, more, hfirst, hmore, rfl⟩ := ofLinesFrom_cons_eq_ok_iff.1 h
    rw [List.length_cons] at hbound
    have hstep := toInt_indents_of_ofLine hfirst (by omega)
    cases before with
    | nil =>
      obtain ⟨rfl, -⟩ := List.cons.inj heq
      simpa [advance] using hstep.1
    | cons _ before =>
      obtain ⟨rfl, hbehind⟩ := List.cons.inj heq
      -- the indent is farther from zero by two at most, and there is one line fewer to come
      have hshift := first.natAbs_shifts.2
      rw [toInt_indent_of_ofLinesFrom hmore (by omega) before s after hbehind, hstep.2]
      simp only [advance, List.map_cons, List.sum_cons]
      omega

/-! ## All lines -/

theorem compiled_of_ofLinesFrom : ∀ {lines : List Text} {number : Nat} {indent : Int32}
    {statements : List Statement}, ofLinesFrom buffer number indent lines = .ok statements →
      List.Forall₂ (Compiled buffer) lines statements
  | [], _, _, _, h => by
    cases h
    exact .nil
  | line :: lines, _, _, _, h => by
    obtain ⟨s, more, hs, hmore, rfl⟩ := ofLinesFrom_cons_eq_ok_iff.1 h
    exact .cons (compiled_of_ofLine hs) (compiled_of_ofLinesFrom hmore)

theorem not_malformed_iff : (∀ fault, ¬ Malformed line fault) ↔ (Tagged line → WellTagged line) := by
  constructor
  · intro h htagged
    rcases wellTagged_or_offends line with hwell | ⟨fault, hfault⟩
    · exact hwell
    · exact absurd (malformed_iff.2 ⟨htagged, hfault⟩) (h fault)
  · intro h fault hmalformed
    obtain ⟨htagged, hfault⟩ := malformed_iff.1 hmalformed
    exact hfault.not_wellTagged (h htagged)

/-- Lines compile just if each one with both marks has the tag of a control line; each becomes a statement of its
own, at the indent that the statements before it and its own keyword make. Otherwise the first line that offends is
reported, with its number and its text; neither the running indent nor the buffer nor a later line changes that. -/
theorem ofLines_exact (buffer : String) (lines : List Text) :
    ((∃ statements, ofLines buffer lines = .ok statements) ↔ ∀ line ∈ lines, Tagged line → WellTagged line) ∧
    (∀ statements, ofLines buffer lines = .ok statements → List.Forall₂ (Compiled buffer) lines statements ∧
      (lines.length < 2 ^ 29 → ∀ before s after, statements = before ++ s :: after →
        s.indent.toInt = advance before + s.ownShift.toInt)) ∧
    ∀ before line after, lines = before ++ line :: after → (∀ l ∈ before, Tagged l → WellTagged l) →
      Tagged line → ¬ WellTagged line → ∃ fault, Offends line fault ∧
        (∀ number indent buffer', ofLine buffer' number indent line =
          .error (.grammar number (String.ofList line) fault)) ∧
        ∀ buffer' after', ofLines buffer' (before ++ line :: after') =
          .error (.grammar (before.length + 1) (String.ofList line) fault) := by
  refine ⟨⟨?_, fun h => ?_⟩, fun statements h => ⟨compiled_of_ofLinesFrom h, ?_⟩, ?_⟩
  · rintro ⟨statements, h⟩ line hline
    obtain ⟨s, -, hs⟩ := exists_right_of_forall₂ (reads_of_ofLines h) hline
    exact not_malformed_iff.1 fun fault => hs.not_malformed
  · have hok : ∃ statements, ofLines buffer lines = .ok statements ∧ List.Forall₂ Reads lines statements :=
      exists_ofLines fun line hline => not_malformed_iff.2 (h line hline)
    exact hok.imp fun _ hstatements => hstatements.1
  · intro hlength before s after heq
    rw [toInt_indent_of_ofLinesFrom h (by rw [Int32.toInt_zero]; omega) before s after heq, Int32.toInt_zero,
      Int.zero_add]
  · rintro before line after - hbefore htagged hnot
    obtain ⟨fault, hfault⟩ := (wellTagged_or_offends line).resolve_left hnot
    exact ⟨fault, hfault, fun _ _ _ => (Answers.error htagged hfault).ofLine_eq, fun _ _ =>
      ofLines_of_malformed (fun l hl => not_malformed_iff.2 (hbefore l hl)) (malformed_iff.2 ⟨htagged, hfault⟩)⟩

/-- A loop, and the same lines behind one that has no condition. -/
theorem ofLines_exact_of_loop :
    let lines : List Text := ["\x7b% for a in b %\x7d".toList, ['x'], "\x7b% end %\x7d".toList]
    let broken : Text := "\x7b% if %\x7d".toList
    (∃ a b c, ofLines "output" lines = .ok [a, b, c] ∧ List.Forall₂ (Compiled "output") lines [a, b, c] ∧
      b.indent.toInt = 2 ∧ c.indent.toInt = 0) ∧
    ∃ fault, ∀ buffer, ofLines buffer (['x'] :: broken :: lines) =
      .error (.grammar 2 (String.ofList broken) fault) := by
  intro lines broken
  have hlines : ofLines "output" lines = .ok [.control ⟨.forLoop, some "a in b".toList, 0, 2⟩,
      .literal ⟨['x'], 2, 2, "output"⟩, .control ⟨.endBlock, none, 0, 0⟩] := rfl
  obtain ⟨hcompiled, hindent⟩ := (ofLines_exact "output" lines).2.1 _ hlines
  have hplain : ¬ Tagged ['x'] := by decide
  have hbroken : Offends broken (.missingCondition "if") := readControl_eq_error_iff.1 rfl
  obtain ⟨fault, -, -, hfault⟩ := (ofLines_exact "output" (['x'] :: broken :: lines)).2.2 [['x']] broken lines rfl
    (by simp [hplain]) (by decide +kernel) hbroken.not_wellTagged
  exact ⟨⟨_, _, _, hlines, hcompiled, hindent (by decide) [_] _ [_] rfl, hindent (by decide) [_, _] _ [] rfl⟩,
    fault, fun buffer => hfault buffer lines⟩

end Statement

end PageTemplate
