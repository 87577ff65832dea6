/-
What a template can be refused for once its includes are in place: a line that is no statement, an
unknown filter, or statements that make no program that runs. Neither an include nor the source of
templates is left to fail.
-/
import PageTemplate.Proofs.Outcome
import PageTemplate.Render.Renderer

namespace PageTemplate

/-- The errors of a template whose includes are in place. -/
inductive TemplateError.OfPage : TemplateError → Prop
  | grammar (line : Nat) (content : String) (fault : GrammarFault) :
      OfPage (.grammar line content fault)
  | filterNotFound (name : String) : OfPage (.filterNotFound name)
  | evaluation (fault : EvaluationFault) : OfPage (.evaluation fault)

open TemplateError

variable {e : TemplateError}

/-! ## Lines -/

theorem Statement.ofLine_error {buffer : String} {number : Nat} {indent : Int32} {line : Text}
    (h : Statement.ofLine buffer number indent line = .error e) : e.OfPage := by
  unfold Statement.ofLine at h
  split at h
  · split at h
    · cases h
    · cases h; exact .grammar ..
  · cases h

theorem Statement.ofLinesFrom_error {buffer : String} :
    ∀ {lines : List Text} {number : Nat} {indent : Int32},
      Statement.ofLinesFrom buffer number indent lines = .error e → e.OfPage
  | [], _, _, h => by cases h
  | line :: rest, number, indent, h => by
    rw [Statement.ofLinesFrom] at h
    rcases bind_eq_error.1 h with h | ⟨statement, -, h⟩
    · exact ofLine_error h
    · rcases bind_eq_error.1 h with h | ⟨more, -, h⟩
      · exact ofLinesFrom_error h
      · cases h

theorem Cache.statements_error {cache : Cache} {name : String} {source : Text} {buffer : String}
    (h : (cache.statements name source buffer).1 = .error e) : e.OfPage := by
  have hcompiled : Statement.ofLines buffer source.lines = .error e := by
    unfold Cache.statements at h
    cases hlines : Statement.ofLines buffer source.lines with
    | ok statements =>
      rw [hlines] at h
      cases hentry : Fields.get? name cache with
      | none => rw [hentry] at h; cases h
      | some entry => rw [hentry] at h; dsimp only at h; split at h <;> cases h
    | error e' =>
      rw [hlines] at h
      cases hentry : Fields.get? name cache with
      | none => rw [hentry] at h; cases h; rfl
      | some entry =>
        rw [hentry] at h
        dsimp only at h
        split at h <;> cases h
        rfl
  exact Statement.ofLinesFrom_error hcompiled

/-! ## Placeholders -/

theorem Filter.named_error {name : String} (h : Filter.named name = .error e) : e.OfPage := by
  unfold Filter.named at h
  split at h
  · cases h
  · cases h; exact .filterNotFound name

theorem Piece.resolve_error {ctx : Context} {piece : Piece} (h : piece.resolve ctx = .error e) :
    e.OfPage := by
  cases piece with
  | text => cases h
  | placeholder p =>
    rw [Piece.resolve] at h
    rcases bind_eq_error.1 h with h | ⟨filters, -, h⟩
    · obtain ⟨name, -, h⟩ := mapM_eq_error h
      exact Filter.named_error h
    · split at h <;> cases h

theorem Substitution.ofLine_error {ctx : Context} {line : Text}
    (h : Substitution.ofLine ctx line = .error e) : e.OfPage := by
  unfold Substitution.ofLine at h
  rcases bind_eq_error.1 h with h | ⟨resolved, -, h⟩
  · obtain ⟨piece, -, h⟩ := mapM_eq_error h
    exact Piece.resolve_error h
  · cases h

/-! ## Statements -/

theorem Control.substitute_error {ctx : Context} {c : Control} (h : c.substitute ctx = .error e) :
    e.OfPage := by
  unfold Control.substitute at h
  split at h
  · cases h
  · rcases bind_eq_error.1 h with h | ⟨s, -, h⟩
    · exact Substitution.ofLine_error h
    · cases h

theorem Statement.toStep_error {ctx : Context} {expand : Text → Except TemplateError (List Node)}
    (hexpand : ∀ {source : Text}, expand source = .error e → e.OfPage) {statement : Statement}
    (h : statement.toStep ctx expand = .error e) : e.OfPage := by
  cases statement with
  | control c =>
    exact Control.substitute_error (map_eq_error.1 h)
  | literal l =>
    rw [Statement.toStep] at h
    rcases bind_eq_error.1 h with h | ⟨s, -, h⟩
    · exact Substitution.ofLine_error h
    · split at h
      · exact hexpand (map_eq_error.1 h)
      · cases h

theorem evaluation_error {α : Type} {x : Except EvaluationFault α}
    (h : x.mapError TemplateError.evaluation = .error e) : e.OfPage := by
  obtain ⟨fault, -, rfl⟩ := mapError_eq_error.1 h
  exact .evaluation fault

namespace Renderer

variable {r : Renderer}

theorem expand_error {ctx : Context} :
    ∀ {levels : Nat} {source : Text}, r.expand ctx levels source = .error e → e.OfPage
  | 0, _, h => by cases h; exact .evaluation _
  | levels + 1, source, h => by
    rw [expand] at h
    rcases bind_eq_error.1 h with h | ⟨statements, -, h⟩
    · exact Statement.ofLinesFrom_error h
    · rcases bind_eq_error.1 h with h | ⟨steps, -, h⟩
      · obtain ⟨statement, -, h⟩ := mapM_eq_error h
        exact Statement.toStep_error expand_error h
      · rcases bind_eq_error.1 h with h | ⟨program, -, h⟩
        · exact evaluation_error h
        · cases h

theorem program_error {ctx : Context} {statements : List Statement}
    (h : r.program ctx statements = .error e) : e.OfPage := by
  rcases bind_eq_error.1 h with h | ⟨steps, -, h⟩
  · obtain ⟨statement, -, h⟩ := mapM_eq_error h
    exact Statement.toStep_error expand_error h
  · exact evaluation_error h

theorem written_error {ctx : Context} {program : Program} (h : r.written ctx program = .error e) :
    e.OfPage := by
  rcases bind_eq_error.1 h with h | ⟨lines, -, h⟩
  · exact evaluation_error h
  · cases h

/-- A template whose includes are in place fails as a page only. -/
theorem page_error {name : String} {source : Text} {s s' : RenderState}
    (h : (r.page name source).run s = (.error e, s')) : e.OfPage := by
  unfold page at h
  rcases run_bind_eq_error h with h | ⟨statements, s₁, -, h⟩
  · exact Cache.statements_error (congrArg Prod.fst h)
  · rcases run_bind_eq_error h with h | ⟨s₂, s₃, -, h⟩
    · cases h
    · rcases run_bind_eq_error h with h | ⟨program, s₄, -, h⟩
      · exact program_error (congrArg Prod.fst h)
      · rcases run_bind_eq_error h with h | ⟨_, s₅, -, h⟩
        · cases h
        · exact written_error (congrArg Prod.fst h)

end Renderer

end PageTemplate
