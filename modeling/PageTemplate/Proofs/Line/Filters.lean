/-
Looking filters up. Substitution looks up every filter that is written in a text, in the order of the text
and whether or not the context has the name in front of it. So if one of them is unknown, the first such
filter is what substitution fails with; and if all are known, it does not fail at all.
-/
import PageTemplate.Proofs.Line.Resolution
import PageTemplate.Render.Renderer

namespace PageTemplate

variable {α β : Type} {names names' : List String} {x : Except TemplateError α}

/-- A computation that looks the filters `names` up, from first to last, and fails for nothing else. -/
inductive ChecksFilters (names : List String) : Except TemplateError α → Prop
  | known {a : α} : (∀ name ∈ names, Filter.IsNamed name) → ChecksFilters names (.ok a)
  | unknown {before after : List String} {name : String} :
      names = before ++ name :: after → (∀ n ∈ before, Filter.IsNamed n) → ¬ Filter.IsNamed name →
      ChecksFilters names (.error (.filterNotFound name))

namespace ChecksFilters

theorem pure (a : α) : ChecksFilters [] (.ok a) := .known (List.forall_mem_nil _)

/-- What is done after the names of the first computation are known looks up the other names. -/
theorem bind {f : α → Except TemplateError β} (hx : ChecksFilters names x)
    (hf : ∀ a, x = .ok a → ChecksFilters names' (f a)) : ChecksFilters (names ++ names') (x >>= f) := by
  cases hx with
  | @unknown before after name hnames hbefore hname =>
    exact .unknown (by rw [hnames, List.append_assoc, List.cons_append]) hbefore hname
  | @known a hknown =>
    rw [ok_bind]
    have hrest := hf a rfl
    revert hrest
    generalize f a = y
    rintro (hknown' | ⟨hnames, hbefore, hname⟩)
    · exact .known (List.forall_mem_append.2 ⟨hknown, hknown'⟩)
    · refine .unknown (by rw [hnames, List.append_assoc]) ?_ hname
      exact List.forall_mem_append.2 ⟨hknown, hbefore⟩

/-- What is done after the lookups does not fail. -/
theorem andThen {f : α → Except TemplateError β} (hx : ChecksFilters names x)
    (hf : ∀ a, x = .ok a → ∃ b, f a = .ok b) : ChecksFilters names (x >>= f) := by
  rw [← List.append_nil names]
  refine hx.bind fun a ha => ?_
  obtain ⟨b, hb⟩ := hf a ha
  rw [hb]
  exact pure b

theorem mapM {f : α → Except TemplateError β} {names : α → List String} :
    ∀ {l : List α}, (∀ a ∈ l, ChecksFilters (names a) (f a)) →
      ChecksFilters (l.flatMap names) (l.mapM f)
  | [], _ => pure []
  | a :: l, h => by
    obtain ⟨ha, hl⟩ := List.forall_mem_cons.1 h
    rw [List.mapM_cons, List.flatMap_cons]
    exact ha.bind fun b _ => (mapM hl).andThen fun bs _ => ⟨b :: bs, rfl⟩

/-- The first name that no filter has is what the computation fails with. -/
theorem eq_error (hx : ChecksFilters names x) {before after : List String} {name : String}
    (hnames : names = before ++ name :: after) (hbefore : ∀ n ∈ before, Filter.IsNamed n)
    (hname : ¬ Filter.IsNamed name) : x = .error (.filterNotFound name) := by
  cases hx with
  | known hknown => exact absurd (hknown name (hnames ▸ by simp)) hname
  | @unknown before' after' name' hnames' hbefore' hname' =>
    -- the two places are one: the name at the first of them would be known in front of the second
    have hwhole := hnames.symm.trans hnames'
    rcases List.append_eq_append_iff.1 hwhole with ⟨more, rfl, hmore⟩ | ⟨more, rfl, hmore⟩
    · cases more with
      | nil => cases hmore; rfl
      | cons n more =>
        cases hmore
        exact absurd (hbefore' name (by simp)) hname
    · cases more with
      | nil => cases hmore; rfl
      | cons n more =>
        cases hmore
        exact absurd (hbefore name' (by simp)) hname'

theorem exists_ok (hx : ChecksFilters names x) (h : ∀ name ∈ names, Filter.IsNamed name) :
    ∃ a, x = .ok a := by
  cases hx with
  | known => exact ⟨_, rfl⟩
  | unknown hnames _ hname => exact absurd (h _ (hnames ▸ by simp)) hname

end ChecksFilters

/-! ## Substitution -/

/-- The names of the filters in a piece of a line, in their order. -/
def Piece.filterNames : Piece → List String
  | .text _ => []
  | .placeholder p => p.filters

/-- The names of the filters in a line, in their order. -/
def Text.filterNames (line : Text) : List String := (Piece.ofLine line).flatMap Piece.filterNames

/-- The names of the filters in a literal line or in a condition, in their order. -/
def Statement.filterNames : Statement → List String
  | .literal l => Text.filterNames l.content
  | .control c => Text.filterNames (c.condition.getD [])

theorem Text.filterNames_nil : Text.filterNames [] = [] := by
  rw [filterNames, Piece.ofLine]
  rfl

theorem Filter.named_checks (name : String) : ChecksFilters [name] (Filter.named name) := by
  by_cases hname : IsNamed name
  · obtain ⟨filter, hfilter⟩ := hname
    rw [named_eq_ok_iff.2 hfilter]
    exact .known (List.forall_mem_singleton.2 ⟨filter, hfilter⟩)
  · have herror : named name = .error (.filterNotFound name) := by
      unfold named
      split
      · rename_i filter hfind
        exact absurd ⟨filter, by simpa using List.find?_some hfind⟩ hname
      · rfl
    rw [herror]
    exact .unknown (List.nil_append _).symm (List.forall_mem_nil _) hname

theorem Placeholder.resolve_checks (ctx : Context) (p : Placeholder) :
    ChecksFilters p.filters (Piece.resolve ctx (.placeholder p)) := by
  have hall : ChecksFilters (p.filters.flatMap ([·])) (p.filters.mapM Filter.named) :=
    .mapM fun name _ => Filter.named_checks name
  rw [List.flatMap_singleton'] at hall
  refine hall.andThen fun filters _ => ?_
  split <;> exact ⟨_, rfl⟩

/-- A line is substituted if its filters are known, and fails with the first unknown one otherwise. -/
theorem Substitution.ofLine_checks (ctx : Context) (line : Text) :
    ChecksFilters (Text.filterNames line) (ofLine ctx line) := by
  refine ChecksFilters.andThen (.mapM fun piece _ => ?_) fun _ _ => ⟨_, rfl⟩
  cases piece with
  | text t => exact .pure _
  | placeholder p => exact p.resolve_checks ctx

theorem Control.substitute_checks (ctx : Context) (c : Control) :
    ChecksFilters (Text.filterNames (c.condition.getD [])) (c.substitute ctx) := by
  obtain ⟨keyword, condition, indent, nextIndent⟩ := c
  cases condition with
  | none => exact Text.filterNames_nil ▸ .pure _
  | some condition => exact (Substitution.ofLine_checks ctx condition).andThen fun s _ => ⟨_, rfl⟩

/-- The step of a statement, if a literal line keeps being a single one. -/
theorem Statement.toStep_checks {ctx : Context} {expand : Text → Except TemplateError (List Node)}
    {statement : Statement}
    (hsingle : ∀ l s, statement = .literal l → Substitution.ofLine ctx l.content = .ok s →
      s.multiline = false) :
    ChecksFilters statement.filterNames (statement.toStep ctx expand) := by
  cases statement with
  | control c => exact (c.substitute_checks ctx).andThen fun d _ => ⟨.control d, rfl⟩
  | literal l =>
    refine (Substitution.ofLine_checks ctx l.content).andThen fun s hs => ⟨.emit s.segments, ?_⟩
    rw [hsingle l s rfl hs]
    rfl

end PageTemplate
