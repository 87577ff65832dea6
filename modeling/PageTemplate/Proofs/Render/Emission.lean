/-
Placeholders as expressions. A placeholder is looked up in the context when its line is substituted, and among the
loop variables and the output when the line is emitted; an expression looks at the loop variables first and at the
context last. The two orders differ only for a name that the context and the scope both have, so where no name of
the context is hidden, a placeholder shows the text of the expression that is written like it.
-/
import PageTemplate.Proofs.Line.Resolution
import PageTemplate.Proofs.Program.Rounds
import PageTemplate.Proofs.Render.Conditions

namespace PageTemplate

/-! ## Names of a scope -/

/-- No name of the context is that of the output or of a loop variable. -/
structure Scope.Unshadowed (scope : Scope) : Prop where
  buffer : scope.context.get? scope.buffer = none
  locals : ∀ name ∈ scope.locals.names, scope.context.get? name = none

namespace Scope

variable {scope : Scope} {name : String} {v : Value}

/-- What the context has is seen in the scope. -/
theorem Unshadowed.get?_of_context (h : scope.Unshadowed) (hv : scope.context.get? name = some v) :
    scope.get? name = some v := by
  have hbuffer : name ≠ scope.buffer := fun heq => by
    rw [heq, h.buffer] at hv
    cases hv
  have hlocal : scope.locals.get? name = none := by
    refine Fields.get?_eq_none_iff.2 fun hmem => ?_
    rw [h.locals name hmem] at hv
    cases hv
  rw [get?_eq_visible hbuffer, visible, hlocal, hv]
  rfl

/-- The names that have a value. -/
theorem exists_get?_iff : (∃ v, scope.get? name = some v) ↔
    name ∈ scope.context.fields.names ∨ name ∈ scope.locals.names ∨ name = scope.buffer := by
  by_cases hbuffer : name = scope.buffer
  · subst hbuffer
    rw [get?, if_pos rfl]
    cases scope.locals.get? scope.buffer <;> simp
  · rw [get?_eq_visible hbuffer, visible, Fields.mem_names_iff, Fields.mem_names_iff, Context.get?]
    cases scope.locals.get? name <;> simp [hbuffer]

end Scope

/-! ## Placeholders as expressions -/

namespace Placeholder

variable {scope : Scope} {p : Placeholder} {t : Text}

/-- The name and the attribute as they are written in an expression. -/
def path (p : Placeholder) : Text := p.name.toList ++ (p.attr.elim [] fun a => '.' :: a.toList)

/-- The expression of the name and the attribute. -/
def expression (p : Placeholder) : Expr := p.attr.elim (.name p.name) (.attribute (.name p.name))

/-- The text is that of the value of the expression that is written like the placeholder. -/
def Evaluates (scope : Scope) (p : Placeholder) (t : Text) : Prop :=
  ∃ e v, Expr.parse p.path = .ok e ∧ e.eval scope.get? = .ok v ∧ t = v.text

/-- The placeholder has no filters, and it names a value of the scope and an attribute that this value has, in words
that an expression can use for names. -/
structure Evaluable (scope : Scope) (p : Placeholder) : Prop where
  unfiltered : p.filters = []
  name : Expr.IsName p.name ∧ ∀ v, (p.name, v) ∉ Expr.literalWords
  visible : p.name ∈ scope.context.fields.names ∨ p.name ∈ scope.locals.names ∨ p.name = scope.buffer
  attr : ∀ a ∈ p.attr, Expr.IsName a ∧ ∃ v w, scope.get? p.name = some v ∧ v.attribute? a = some w

theorem Evaluates.unique {t' : Text} (h : p.Evaluates scope t) (h' : p.Evaluates scope t') : t = t' := by
  obtain ⟨e, v, he, hv, rfl⟩ := h
  obtain ⟨e', v', he', hv', rfl⟩ := h'
  rw [he] at he'
  cases he'
  rw [hv] at hv'
  cases hv'
  rfl

/-- The name and the attribute of a placeholder are names. -/
theorem Written.isName (h : p.Written) : IsName p.name.toList ∧ ∀ a ∈ p.attr, IsName a.toList := by
  cases h with
  | braced _ hname hattr =>
    refine ⟨by rwa [String.toList_ofList], fun a ha => ?_⟩
    cases hattr with
    | none => cases ha
    | dotted hattr =>
      cases ha
      rwa [String.toList_ofList]

/-- A name by itself, or with an attribute behind a dot, is read as the expression. -/
theorem Written.parse_path (h : p.Written) (hname : Expr.IsName p.name) (hword : ∀ v, (p.name, v) ∉ Expr.literalWords)
    (hattr : ∀ a ∈ p.attr, Expr.IsName a) : Expr.parse p.path = .ok p.expression := by
  obtain ⟨hletters, hletters'⟩ := h.isName
  have hprintable : (Expr.name p.name).Printable := ⟨hletters.isIdentifier, hname, hword⟩
  unfold path expression
  cases ha : p.attr with
  | none =>
    rw [Option.elim_none, Option.elim_none, List.append_nil]
    exact (Expr.Printed.operand hprintable.operand_name).parse (Expr.spelled_name_self hletters.isIdentifier)
  | some a =>
    have hattribute := Expr.spelled_name_self (hletters' a ha).isIdentifier
    have hdot := Symbol.Spelled.cons (List.forall_mem_nil _) Symbol.Word.dot trivial hattribute
    exact (Expr.Printed.operand (.attribute hprintable.operand_name (hattr a ha))).parse
      (Expr.spelled_name hletters.isIdentifier (by rintro c ⟨⟩; decide +kernel) hdot)

/-- What a placeholder shows of a value of the scope is the text of its expression. -/
theorem Evaluable.evaluates (h : p.Evaluable scope) (hwritten : p.Written) {v : Value}
    (hv : scope.get? p.name = some v) : p.Evaluates scope (v.through p.attr []) := by
  refine ⟨p.expression, (p.attr.bind v.attribute?).getD v, ?_, ?_, rfl⟩
  · exact hwritten.parse_path h.name.1 h.name.2 fun a ha => (h.attr a ha).1
  · unfold expression
    cases ha : p.attr with
    | none =>
      rw [Option.elim_none, Expr.eval_name hv]
      rfl
    | some a =>
      obtain ⟨-, v', w, hv', hw⟩ := h.attr a ha
      rw [hv] at hv'
      cases hv'
      rw [Option.elim_some, Expr.eval, Expr.eval_name hv, ok_bind, hw, Option.bind_some, hw]
      rfl

/-- Whether it has been replaced already or is looked up in the scope, a placeholder shows the text of its
expression. -/
theorem Becomes.evaluates {res : Resolved} (h : p.Becomes scope.context res) (hscope : scope.Unshadowed)
    (hwritten : p.Written) (hp : p.Evaluable scope) : p.Evaluates scope (res.segment.emitted scope.get?) := by
  have hnone {filters : List Filter} (hfilters : filters.map Filter.name = p.filters) : filters = [] :=
    List.map_eq_nil_iff.1 (hfilters.trans hp.unfiltered)
  cases h with
  | value hresolves =>
    -- what the context has has been put in already, and it is what the scope has
    obtain ⟨v, filters, hv, hfilters, rfl⟩ := hresolves
    obtain rfl := hnone hfilters
    exact hp.evaluates hwritten (hscope.get?_of_context hv)
  | @deferred filters _ hfilters =>
    -- anything else is looked up where the expression is evaluated
    obtain rfl := hnone hfilters
    obtain ⟨v, hv⟩ := Scope.exists_get?_iff.2 hp.visible
    have hshown : (Resolved.deferred ⟨p.raw, p.name, p.attr, []⟩).segment.emitted scope.get? = v.through p.attr [] := by
      show Segment.emitted scope.get? (.deferred _) = _
      rw [Segment.emitted]
      dsimp only
      rw [hv]
    rw [hshown]
    exact hp.evaluates hwritten hv

end Placeholder

/-! ## Lines -/

/-- Placeholders and expressions see the same values, unless a name of the context is hidden. A line whose
placeholders name values of the scope, or attributes that these have, is substituted in the context and emitted in
the scope as one page line: the line in which each placeholder is replaced by the text of the value of the expression
that is written like it. -/
theorem emission_evaluates (scope : Scope) (line : Text) (hscope : scope.Unshadowed)
    (hline : ∀ p : Placeholder, p.In line → p.Evaluable scope) :
    ∃ s page, Substitution.ofLine scope.context line = .ok s ∧
      (Node.run (.emit s.segments)).run scope = (.ok (), scope.append page) ∧
      ∀ page', Text.Replaced (Placeholder.Evaluates scope) line page' ↔ page' = page := by
  have hknown : ∀ p : Placeholder, p.In line → p.Known := fun p hp name hname => by
    rw [(hline p hp).unfiltered] at hname
    cases hname
  obtain ⟨s, hs⟩ := Substitution.exists_ofLine scope.context hknown
  refine ⟨s, s.segments.flatMap (·.emitted scope.get?), hs, rfl, fun page' => ?_⟩
  have hemitted : Text.Replaced (Placeholder.Evaluates scope) line (s.segments.flatMap (·.emitted scope.get?)) := by
    refine ((Substitution.of_ofLine hs).replaced (·.emitted scope.get?) fun _ => rfl).imp fun p t hp ht => ?_
    obtain ⟨res, hres, rfl⟩ := ht
    exact hres.evaluates hscope hp.written (hline p hp)
  exact ⟨fun h => h.unique hemitted fun _ _ _ => Placeholder.Evaluates.unique, fun h => h ▸ hemitted⟩

/-- A name of the context, an attribute of a loop variable that is bound twice, and the output. -/
theorem emission_evaluates_of_three_names :
    let scope : Scope :=
      ⟨⟨[("title", .str "A")]⟩, [("item", .map [("n", .int 7)]), ("item", .null)], "out", #[['x']]⟩
    let line : Text := "\x7b\x7btitle\x7d\x7d: \x7b\x7bitem.n\x7d\x7d \x7b\x7bout\x7d\x7d".toList
    scope.Unshadowed ∧ (∀ p : Placeholder, p.In line → p.Evaluable scope) ∧
      ∀ page', Text.Replaced (Placeholder.Evaluates scope) line page' ↔ page' = "A: 7 [x]".toList := by
  intro scope line
  have hscope : scope.Unshadowed := ⟨rfl, by decide⟩
  have hline : ∀ p : Placeholder, p.In line → p.Evaluable scope := by
    intro p hp
    have hplaceholders : Text.placeholders line =
        [.plain "title", ⟨"\x7b\x7bitem.n\x7d\x7d".toList, "item", some "n", []⟩, .plain "out"] := by
      decide +kernel
    have hmem := Text.mem_placeholders_iff.2 hp
    rw [hplaceholders] at hmem
    simp only [List.mem_cons, List.not_mem_nil, or_false] at hmem
    rcases hmem with rfl | rfl | rfl
    · exact ⟨rfl, ⟨by decide, by simp [Placeholder.plain, Expr.literalWords]⟩, .inl (by decide), by simp [Placeholder.plain]⟩
    · refine ⟨rfl, ⟨by decide, by simp [Expr.literalWords]⟩, .inr (.inl (by decide)), fun a ha => ?_⟩
      cases ha
      exact ⟨by decide, .map [("n", .int 7)], .int 7, rfl, rfl⟩
    · exact ⟨rfl, ⟨by decide, by simp [Placeholder.plain, Expr.literalWords]⟩, .inr (.inr rfl), by simp [Placeholder.plain]⟩
  obtain ⟨s, page, hs, hrun, hpage⟩ := emission_evaluates scope line hscope hline
  have hshown : (Substitution.ofLine scope.context line).toOption.map
      (fun s => ((Node.run (.emit s.segments)).run scope).2.output.toList) = some [['x'], "A: 7 [x]".toList] := by
    decide +kernel
  rw [hs, Except.toOption, Option.map_some, hrun] at hshown
  have houtput : [['x'], page] = [['x'], "A: 7 [x]".toList] := Option.some.inj hshown
  have hlast : page = "A: 7 [x]".toList := (List.cons.inj (List.cons.inj houtput).2).1
  exact ⟨hscope, hline, hlast ▸ hpage⟩

end PageTemplate
