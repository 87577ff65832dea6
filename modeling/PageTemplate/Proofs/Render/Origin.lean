/-
Where the error of a rendering comes from. A rendering that fails has come to one template that it fails at,
from the template that it starts with and by directives, each met when those in front of it had their pages.
There the include is refused, or the source of templates has no such template, or what fails is its page, with
all its includes in place. The error of that template and the state that it is left in are those of the whole
rendering, so that what is known of the one template is known of the rendering.

A rendering inside other templates goes by the same steps; the induction is on the levels that are left, and
together with the templates outside they make up the bound. On the way nothing is new in the context but the
time, as everywhere in a rendering.
-/
import PageTemplate.Proofs.Render.Frame
import PageTemplate.Proofs.Render.Includes

namespace PageTemplate.Renderer

open RenderState (Follows)

/-- While a template is rendered from the first state on, a rendering of the other template begins in the
second state: of the template itself, or of one that it comes to by directives, inside the templates of
`chain`. -/
inductive Reaches (r : Renderer) : RenderState → String → (chain : List String) → RenderState → String → Prop
  | self {s : RenderState} {n : String} : Reaches r s n [] s n
  | inclusion {s t u : RenderState} {chain : List String} {root m n text : String} :
      r.source root = .ok text → r.Asks s.refreshed text.toList t m → Reaches r t m chain u n →
      Reaches r s root (root :: chain) u n

/-- A template whose rendering begins in a state, inside the templates of `chain`, fails on its own account
and not by one that it includes: with an error, and in the state that it is left in. -/
inductive FailsAt (r : Renderer) (chain : List String) (s : RenderState) (n : String) :
    TemplateError → RenderState → Prop
  | refused {e : TemplateError} : chain ≠ [] → checkInclusion chain n = .error e → FailsAt r chain s n e s
  | tooDeep :
      r.options.maxIncludeDepth < chain.length →
      FailsAt r chain s n (.inclusion n (.nestedDeeper r.options.maxIncludeDepth)) s
  | missing {e : TemplateError} : r.source n = .error e → FailsAt r chain s n e s
  | page {text : String} {filled : Text} {t s' : RenderState} {e : TemplateError} :
      r.source n = .ok text → r.Filled s.refreshed text.toList filled t →
      (r.page n filled).run t = (.error e, s') → FailsAt r chain s n e s'

variable {r : Renderer} {s s' t : RenderState} {chain outer : List String} {name root n m : String}
  {source filled page : Text} {e : TemplateError}

/-! ## On the way -/

theorem follows_of_page {result : Except TemplateError Text} (h : (r.page name filled).run s = (result, s')) :
    s.Follows s' := by
  have hfollows := page_follows (r := r) name filled s
  rwa [h] at hfollows

theorem Filled.follows (h : r.Filled s source filled t) : s.Follows t := by
  induction h with
  | none => exact .refl _
  | first _ _ _ _ hpage _ ihinner ihafter =>
    have hfilled := (RenderState.follows_refreshed _).trans _ _ _ ihinner
    have hdone := hfilled.trans _ _ _ (follows_of_page hpage)
    exact hdone.trans _ _ _ ihafter

theorem PageOf.follows (h : r.PageOf s name source page t) : s.Follows t := by
  obtain ⟨filled, u, hfilled, hpage⟩ := h
  have hbefore := s.follows_refreshed.trans _ _ _ hfilled.follows
  exact hbefore.trans _ _ _ (follows_of_page hpage)

theorem Asks.follows (h : r.Asks s source t m) : s.Follows t := by
  induction h with
  | first => exact .refl _
  | later _ _ _ hpage _ ih => exact hpage.follows.trans _ _ _ ih

theorem Reaches.follows (h : r.Reaches s root chain t n) : s.Follows t := by
  induction h with
  | self => exact .refl _
  | inclusion _ hasks _ ih =>
    have hbefore := (RenderState.follows_refreshed _).trans _ _ _ hasks.follows
    exact hbefore.trans _ _ _ ih

/-- What is reached lies on a path of the include graph, behind the templates that it is inside of. -/
theorem Reaches.exists_path (h : r.Reaches s root chain t n) :
    ∃ names, root :: names = chain ++ [n] ∧ r.source.Path root names := by
  induction h with
  | @self s n => exact ⟨[], rfl, Source.path_nil n⟩
  | @inclusion s t u chain root m n text htext hasks _ ih =>
    obtain ⟨names, hnames, hpath⟩ := ih
    refine ⟨m :: names, ?_, (Source.path_cons htext).2 ⟨hasks.mem_inclusions, hpath⟩⟩
    rw [hnames, List.cons_append]

/-! ## The place of an error -/

/-- A template fails on its own account, or where a template fails that it asks for. -/
theorem exists_failsAt_of_renderSource {levels : Nat} {text : String} (htext : r.source name = .ok text)
    (hincluded : ∀ m t, (r.included levels (outer ++ [name]) m).run t = (.error e, s') →
      ∃ chain u n, r.Reaches t m chain u n ∧ r.FailsAt (outer ++ [name] ++ chain) u n e s')
    (h : (r.renderSource (r.included levels) outer name text.toList).run s = (.error e, s')) :
    ∃ chain u n, r.Reaches s name chain u n ∧ r.FailsAt (outer ++ chain) u n e s' := by
  rcases renderSource_eq_error (rendersPages_included levels _) h with ⟨filled, t, hfilled, hpage⟩ | ⟨t, m, hasks, h⟩
  · exact ⟨[], s, name, .self, .page htext hfilled hpage⟩
  · obtain ⟨chain, u, n, hreaches, hfails⟩ := hincluded m t h
    rw [List.append_assoc, List.singleton_append] at hfails
    exact ⟨name :: chain, u, n, .inclusion htext hasks hreaches, hfails⟩

/-- An included template that fails is refused, or cannot be loaded, or fails once it is loaded. -/
theorem included_eq_error_cases {levels : Nat} (houter : outer ≠ [])
    (hlevels : levels + outer.length = r.options.maxIncludeDepth + 1)
    (h : (r.included levels outer name).run s = (.error e, s')) :
    r.FailsAt outer s name e s' ∨ ∃ text levels', r.source name = .ok text ∧ levels = levels' + 1 ∧
      (r.renderSource (r.included levels') outer name text.toList).run s = (.error e, s') := by
  cases levels with
  | zero =>
    rcases run_lift_bind_eq_error h with ⟨hcheck, rfl⟩ | ⟨_, -, h⟩
    · exact .inl (.refused houter hcheck)
    · cases h
      exact .inl (.tooDeep (by omega))
  | succ levels =>
    rcases run_lift_bind_eq_error h with ⟨hcheck, rfl⟩ | ⟨_, -, h⟩
    · exact .inl (.refused houter hcheck)
    rcases run_lift_bind_eq_error h with ⟨hsource, rfl⟩ | ⟨text, htext, h⟩
    · exact .inl (.missing hsource)
    · exact .inr ⟨text, levels, htext, rfl, h⟩

theorem exists_failsAt_of_included :
    ∀ {levels : Nat} {outer : List String}, outer ≠ [] →
      levels + outer.length = r.options.maxIncludeDepth + 1 → ∀ (name : String) (s : RenderState),
      (r.included levels outer name).run s = (.error e, s') →
      ∃ chain t n, r.Reaches s name chain t n ∧ r.FailsAt (outer ++ chain) t n e s'
  | levels, outer, houter, hlevels, name, s, h => by
    rcases included_eq_error_cases houter hlevels h with hfails | ⟨text, levels', htext, rfl, hrun⟩
    · exact ⟨[], s, name, .self, by rwa [List.append_nil]⟩
    · refine exists_failsAt_of_renderSource htext (exists_failsAt_of_included (by simp) ?_) hrun
      rw [List.length_append, List.length_singleton]
      omega

/-- A rendering that fails has come to a template that it fails at, or to a page that is refused when it is
finished. -/
theorem exists_failsAt_of_renderFile (h : (r.renderFile root).run s = (.error e, s')) :
    (∃ chain t n, r.Reaches s root chain t n ∧ r.FailsAt chain t n e s') ∨
      ∃ text page, r.source root = .ok text ∧ (r.renderRoot root text.toList).run s = (.ok page, s') ∧
        r.finish (String.ofList page) = .error e := by
  rcases run_lift_bind_eq_error h with ⟨hsource, rfl⟩ | ⟨text, htext, h⟩
  · exact .inl ⟨[], s, root, .self, .missing hsource⟩
  rcases run_bind_eq_error h with h | ⟨page, t, hpage, h⟩
  · exact .inl (exists_failsAt_of_renderSource htext (exists_failsAt_of_included (by simp) rfl) h)
  · obtain ⟨hfinish, rfl⟩ := run_lift_eq_iff.1 h
    exact .inr ⟨text, page, htext, hpage, hfinish⟩

end PageTemplate.Renderer
