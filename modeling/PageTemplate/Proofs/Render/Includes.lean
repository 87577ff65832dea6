/-
Includes: whether the includes of a template are put in place is decided by the texts of the
templates alone. In the include graph a template leads to every name in a directive of its own text.
A page is finished only if each path from its template is short, meets no template twice and leads to
templates that can be loaded; and where all paths are like that no include fails. What an included
template writes stands in place of its directive as it is, and no template off those paths is ever
asked for.
-/
import Mathlib.Data.List.Chain
import PageTemplate.Proofs.Render.Filling
import PageTemplate.Proofs.Render.Refusal
import PageTemplate.Source.Library

namespace PageTemplate

/-! ## The include graph -/

namespace Source

variable {source : Source}

/-- The template of a name can be loaded. -/
def Loads (source : Source) (n : String) : Prop := ∃ text, source n = .ok text

/-- A directive in the text of the template `n` asks for `m`. -/
def Includes (source : Source) (n m : String) : Prop :=
  ∃ text names, source n = .ok text ∧ SourcePart.Directives text.toList names ∧ m ∈ names

/-- The names of a path of the include graph, after the one that it starts at. -/
def Path (source : Source) (root : String) (names : List String) : Prop :=
  (root :: names).IsChain source.Includes

/-- All that a path of the include graph needs for its templates to be put in place. -/
structure Resolvable (source : Source) (levels : Nat) (root : String) (names : List String) : Prop where
  distinct : (root :: names).Nodup
  named : ∀ n ∈ names, n ≠ ""
  loads : ∀ n ∈ root :: names, source.Loads n
  short : names.length ≤ levels

/-- What is left to ask of a path inside the templates of `chain`, while `levels` more levels of
includes are allowed. -/
structure Admits (source : Source) (chain : List String) (levels : Nat) (path : List String) :
    Prop where
  distinct : path.Nodup
  outside : ∀ n ∈ path, n ∉ chain
  named : ∀ n ∈ path, n ≠ ""
  loads : ∀ n ∈ path, source.Loads n
  short : path.length ≤ levels

theorem includes_iff {n m : String} {text : String} (h : source n = .ok text) :
    source.Includes n m ↔ m ∈ SourcePart.inclusions text.toList := by
  constructor
  · rintro ⟨text', names, htext, hnames, hm⟩
    rw [h] at htext
    cases htext
    rwa [SourcePart.directives_iff.1 hnames]
  · intro hm
    exact ⟨text, _, h, SourcePart.directives_iff.2 rfl, hm⟩

theorem path_nil (n : String) : source.Path n [] := .singleton n

/-- A path goes on from a directive of the template that it starts at. -/
theorem path_cons {n m : String} {names : List String} {text : String} (h : source n = .ok text) :
    source.Path n (m :: names) ↔ m ∈ SourcePart.inclusions text.toList ∧ source.Path m names := by
  unfold Path
  rw [List.isChain_cons_cons, includes_iff h]

theorem admits_nil (chain : List String) (levels : Nat) : source.Admits chain levels [] :=
  ⟨.nil, List.forall_mem_nil _, List.forall_mem_nil _, List.forall_mem_nil _, Nat.zero_le _⟩

/-- One step of a path moves its first template into the chain and uses up a level. -/
theorem admits_cons {chain : List String} {levels : Nat} {n : String} {path : List String} :
    source.Admits chain levels (n :: path) ↔
      (n ≠ "" ∧ n ∉ chain) ∧ source.Loads n ∧
        ∃ levels', levels = levels' + 1 ∧ source.Admits (chain ++ [n]) levels' path := by
  constructor
  · rintro ⟨hdistinct, houtside, hnamed, hloads, hshort⟩
    obtain ⟨hn, hpath⟩ := List.nodup_cons.1 hdistinct
    obtain ⟨hchain, houtside⟩ := List.forall_mem_cons.1 houtside
    obtain ⟨hne, hnamed⟩ := List.forall_mem_cons.1 hnamed
    obtain ⟨hload, hloads⟩ := List.forall_mem_cons.1 hloads
    obtain ⟨levels', rfl⟩ := Nat.exists_eq_add_of_le' (Nat.lt_of_lt_of_le (Nat.succ_pos _) hshort)
    refine ⟨⟨hne, hchain⟩, hload, levels', rfl, hpath, ?_, hnamed, hloads, Nat.le_of_succ_le_succ hshort⟩
    intro m hm hmem
    rcases List.mem_append.1 hmem with hmem | hmem
    · exact houtside m hm hmem
    · rw [List.mem_singleton.1 hmem] at hm; exact hn hm
  · rintro ⟨⟨hne, hchain⟩, hload, levels', rfl, hpath, houtside, hnamed, hloads, hshort⟩
    refine ⟨List.nodup_cons.2 ⟨fun hn => houtside n hn ?_, hpath⟩, ?_, ?_, ?_, Nat.succ_le_succ hshort⟩
    · exact List.mem_append_right _ List.mem_cons_self
    · exact List.forall_mem_cons.2 ⟨hchain, fun m hm hmem => houtside m hm (List.mem_append_left _ hmem)⟩
    · exact List.forall_mem_cons.2 ⟨hne, hnamed⟩
    · exact List.forall_mem_cons.2 ⟨hload, hloads⟩

theorem resolvable_iff {levels : Nat} {root : String} {names : List String} :
    source.Resolvable levels root names ↔ source.Loads root ∧ source.Admits [root] levels names := by
  constructor
  · rintro ⟨hdistinct, hnamed, hloads, hshort⟩
    obtain ⟨hroot, hnames⟩ := List.nodup_cons.1 hdistinct
    obtain ⟨hload, hloads⟩ := List.forall_mem_cons.1 hloads
    refine ⟨hload, hnames, fun n hn hmem => ?_, hnamed, hloads, hshort⟩
    rw [List.mem_singleton.1 hmem] at hn
    exact hroot hn
  · rintro ⟨hload, hnames, houtside, hnamed, hloads, hshort⟩
    refine ⟨List.nodup_cons.2 ⟨fun hroot => ?_, hnames⟩, hnamed, ?_, hshort⟩
    · exact houtside root hroot List.mem_cons_self
    · exact List.forall_mem_cons.2 ⟨hload, hloads⟩

end Source

/-! ## One template -/

namespace Renderer

variable {r : Renderer} {inner inner' : List String → String → Render Text}
  {chain : List String} {name : String} {source page : Text} {s s' : RenderState} {e : TemplateError}

theorem checkInclusion_eq_ok : checkInclusion chain name = .ok () ↔ name ≠ "" ∧ name ∉ chain := by
  unfold checkInclusion
  by_cases hname : name = ""
  · simp [hname]
  · by_cases hchain : name ∈ chain <;> simp [hname, hchain]

/-- A template whose page is written has had every page that it includes. -/
theorem renderSource_eq_ok (h : (r.renderSource inner chain name source).run s = (.ok page, s')) :
    ∀ m ∈ SourcePart.inclusions source,
      ∃ s₁ page₁ s₂, (inner (chain ++ [name]) m).run s₁ = (.ok page₁, s₂) := by
  unfold renderSource at h
  obtain ⟨_, s₁, -, h⟩ := run_bind_eq_ok h
  obtain ⟨parts, s₂, hparts, -⟩ := run_bind_eq_ok h
  intro m hm
  obtain ⟨t, ht, rfl⟩ := SourcePart.mem_inclusions.1 hm
  exact run_mapM_eq_ok hparts _ ht

/-- A template asks for the pages of its own directives and for no others. -/
theorem renderSource_congr
    (h : ∀ m ∈ SourcePart.inclusions source, inner (chain ++ [name]) m = inner' (chain ++ [name]) m) :
    r.renderSource inner chain name source = r.renderSource inner' chain name source := by
  have hparts : (SourcePart.ofSource source).mapM (SourcePart.fill (inner (chain ++ [name]))) =
      (SourcePart.ofSource source).mapM (SourcePart.fill (inner' (chain ++ [name]))) := by
    refine mapM_congr fun part hpart => ?_
    cases part with
    | text => rfl
    | inclusion t => exact h _ (SourcePart.mem_inclusions.2 ⟨t, hpart, rfl⟩)
  rw [renderSource, renderSource, hparts]

/-! ## Included templates -/

theorem included_eq_ok {levels : Nat} (h : (r.included levels chain name).run s = (.ok page, s')) :
    (name ≠ "" ∧ name ∉ chain) ∧ ∃ text, r.source name = .ok text ∧
      ∃ levels', levels = levels' + 1 ∧
        (r.renderSource (r.included levels') chain name text.toList).run s = (.ok page, s') := by
  cases levels with
  | zero =>
    obtain ⟨_, -, h⟩ := run_lift_bind_eq_ok h
    cases h
  | succ levels =>
    rw [included] at h
    obtain ⟨_, hcheck, h⟩ := run_lift_bind_eq_ok h
    obtain ⟨text, htext, h⟩ := run_lift_bind_eq_ok h
    exact ⟨checkInclusion_eq_ok.1 hcheck, text, htext, levels, rfl, h⟩

theorem included_eq_error {levels : Nat} {text : String} (hname : name ≠ "" ∧ name ∉ chain)
    (htext : r.source name = .ok text) (h : (r.included (levels + 1) chain name).run s = (.error e, s')) :
    (r.renderSource (r.included levels) chain name text.toList).run s = (.error e, s') := by
  rw [included, checkInclusion_eq_ok.2 hname, htext] at h
  exact h

theorem rendersPages_included : ∀ (levels : Nat) (chain : List String), r.RendersPages (r.included levels chain)
  | levels, chain, name, page, s, s', h => by
    obtain ⟨-, text, htext, levels', rfl, hrun⟩ := included_eq_ok h
    exact ⟨text, htext, pageOf_of_renderSource (rendersPages_included levels' _) hrun⟩

/-- If the page of an included template is written, all paths from it are in order. -/
theorem admits_of_included :
    ∀ {names : List String} {levels : Nat} {chain : List String} {name : String} {page : Text}
      {s s' : RenderState}, (r.included levels chain name).run s = (.ok page, s') →
      r.source.Path name names → r.source.Admits chain levels (name :: names)
  | names, levels, chain, name, page, s, s', h, hpath => by
    obtain ⟨hname, text, htext, levels', rfl, hrun⟩ := included_eq_ok h
    refine Source.admits_cons.2 ⟨hname, ⟨text, htext⟩, levels', rfl, ?_⟩
    cases names with
    | nil => exact Source.admits_nil _ _
    | cons m names =>
      obtain ⟨hm, hpath⟩ := (Source.path_cons htext).1 hpath
      obtain ⟨s₁, page₁, s₂, hpage⟩ := renderSource_eq_ok hrun m hm
      exact admits_of_included hpage hpath

/-- If all paths from an included template are in order, it fails as a page only. -/
theorem ofPage_of_included :
    ∀ {levels : Nat} {chain : List String} {name : String} {s s' : RenderState},
      (∀ names, r.source.Path name names → r.source.Admits chain levels (name :: names)) →
      (r.included levels chain name).run s = (.error e, s') → e.OfPage
  | levels, chain, name, s, s', hadmits, h => by
    obtain ⟨hname, ⟨text, htext⟩, levels', rfl, -⟩ :=
      Source.admits_cons.1 (hadmits [] (Source.path_nil name))
    rcases renderSource_eq_error (rendersPages_included levels' _) (included_eq_error hname htext h) with
      ⟨_, _, -, h⟩ | ⟨_, m, hasks, h⟩
    · exact page_error h
    · -- a path from what is included goes on from a path of one more level from here
      refine ofPage_of_included (fun names hpath => ?_) h
      have hpath' := (Source.path_cons htext).2 ⟨hasks.mem_inclusions, hpath⟩
      obtain ⟨-, -, _, heq, hrest⟩ := Source.admits_cons.1 (hadmits (m :: names) hpath')
      cases heq
      exact hrest

/-! ## Another source of templates -/

section

variable (source' : Source)

theorem expand_withSource (ctx : Context) : ∀ levels : Nat,
    { r with source := source' }.expand ctx levels = r.expand ctx levels
  | 0 => rfl
  | levels + 1 => by
    funext text
    rw [expand, expand, expand_withSource ctx levels]

theorem page_withSource (name : String) (text : Text) :
    { r with source := source' }.page name text = r.page name text := by
  have hprogram (ctx : Context) (statements : List Statement) :
      { r with source := source' }.program ctx statements = r.program ctx statements := by
    rw [program, program, steps, steps, expand_withSource]
  rw [page, page]
  simp only [hprogram]
  rfl

theorem renderSource_withSource (chain : List String) (name : String) (text : Text) :
    { r with source := source' }.renderSource inner chain name text =
      r.renderSource inner chain name text := by
  rw [renderSource, renderSource]
  simp only [page_withSource]

end

/-- An included template is the same page from every source that has the same templates on the paths
from it. -/
theorem included_congr {source' : Source} :
    ∀ {levels : Nat} {chain : List String} {name : String},
      (∀ names, r.source.Path name names → ∀ n ∈ name :: names, source' n = r.source n) →
      { r with source := source' }.included levels chain name = r.included levels chain name
  | 0, _, _, _ => rfl
  | levels + 1, chain, name, h => by
    have hname := h [] (Source.path_nil name) name List.mem_cons_self
    rw [included, included]
    simp only [renderSource_withSource, hname]
    refine congrArg _ (funext fun _ => lift_bind_congr fun text htext => ?_)
    refine renderSource_congr fun m hm => included_congr fun names hpath n hn => ?_
    have hpath' := (Source.path_cons htext).2 ⟨hm, hpath⟩
    exact h (m :: names) hpath' n (List.mem_cons_of_mem _ hn)

/-! ## The whole page -/

/-- The include graph decides what becomes of the includes of a template. If its page is finished, on
every path from it all templates load, none is met twice, no name behind the first is empty, and the
path is no longer than the settings allow; and the page is that of the text with the pages that this
rendering makes in place of its directives, which are not read for directives themselves. If all paths
are like that, no include fails: a failure is one of a page, or of the formatter on the finished page.
And a source with the same templates on these paths makes no difference. -/
theorem renderFile_follows_include_graph (r : Renderer) (root : String) (s : RenderState) :
    (∀ page s', (r.renderFile root).run s = (.ok page, s') →
      (∀ names, r.source.Path root names →
        r.source.Resolvable r.options.maxIncludeDepth root names) ∧
      ∃ text body, r.source root = .ok text ∧ r.PageOf s root text.toList body s' ∧
        r.finish (String.ofList body) = .ok page) ∧
    ((∀ names, r.source.Path root names → r.source.Resolvable r.options.maxIncludeDepth root names) →
      ∀ e s', (r.renderFile root).run s = (.error e, s') →
        e.OfPage ∨ ∃ text page, r.source root = .ok text ∧
          (r.renderRoot root text.toList).run s = (.ok page, s') ∧
          r.finish (String.ofList page) = .error e) ∧
    (∀ source' : Source,
      (∀ names, r.source.Path root names → ∀ n ∈ root :: names, source' n = r.source n) →
      { r with source := source' }.renderFile root = r.renderFile root) := by
  refine ⟨fun page s' h => ?_, fun hresolvable e s' h => ?_, fun source' hsource => ?_⟩
  · obtain ⟨text, htext, h⟩ := run_lift_bind_eq_ok h
    obtain ⟨body, s₂, hpage, h⟩ := run_bind_eq_ok h
    obtain ⟨hfinish, rfl⟩ := run_lift_eq_iff.1 h
    refine ⟨fun names hpath => ?_, text, body, htext,
      pageOf_of_renderSource (rendersPages_included _ _) hpage, hfinish⟩
    refine Source.resolvable_iff.2 ⟨⟨text, htext⟩, ?_⟩
    cases names with
    | nil => exact Source.admits_nil _ _
    | cons m names =>
      obtain ⟨hm, hpath⟩ := (Source.path_cons htext).1 hpath
      obtain ⟨s₃, page₃, s₄, h⟩ := renderSource_eq_ok hpage m hm
      exact admits_of_included h hpath
  · obtain ⟨text, htext⟩ := (hresolvable [] (Source.path_nil root)).loads root List.mem_cons_self
    rw [renderFile, htext] at h
    rcases run_bind_eq_error h with h | ⟨text₁, s₁, htext₁, h⟩
    · cases h
    cases htext₁
    rcases run_bind_eq_error h with h | ⟨page, s₂, hpage, h⟩
    · rcases renderSource_eq_error (rendersPages_included _ _) h with ⟨_, _, -, h⟩ | ⟨_, m, hasks, h⟩
      · exact .inl (page_error h)
      · refine .inl (ofPage_of_included (fun names hpath => ?_) h)
        have hpath' := (Source.path_cons htext).2 ⟨hasks.mem_inclusions, hpath⟩
        exact (Source.resolvable_iff.1 (hresolvable (m :: names) hpath')).2
    · obtain ⟨hfinish, rfl⟩ := run_lift_eq_iff.1 h
      exact .inr ⟨text, page, htext, hpage, hfinish⟩
  · have hroot := hsource [] (Source.path_nil root) root List.mem_cons_self
    rw [renderFile, renderFile]
    simp only [renderRoot, renderSource_withSource, hroot]
    refine lift_bind_congr fun text htext => ?_
    refine congrArg (· >>= _) (renderSource_congr fun m hm => included_congr fun names hpath n hn => ?_)
    have hpath' := (Source.path_cons htext).2 ⟨hm, hpath⟩
    exact hsource (m :: names) hpath' n (List.mem_cons_of_mem _ hn)

/-- The name that a rendering starts from may be empty, where the source has a template of that name:
it stands on every path, and no directive asks for it. -/
theorem renderFile_accepts_empty_root :
    ¬ ∀ (r : Renderer) (root : String) (s : RenderState) (page : String) (s' : RenderState),
      (r.renderFile root).run s = (.ok page, s') →
        ∀ names, r.source.Path root names → ∀ n ∈ root :: names, n ≠ "" := by
  intro h
  let r : Renderer := { options := {}, source := Library.source [("", "")] }
  let s : RenderState :=
    { context := ⟨[]⟩, clock := ⟨fun _ => ⟨0, "", ""⟩, 0⟩, cache := [], programs := [] }
  -- the empty template has an empty page, and its name alone is a path
  have hpage : ((r.renderFile "").run s).1.toOption = some "" := by decide +kernel
  rcases hrun : (r.renderFile "").run s with ⟨_ | page, s'⟩
  · rw [hrun] at hpage; cases hpage
  · exact h r "" s page s' hrun [] (Source.path_nil "") "" List.mem_cons_self rfl

end Renderer

end PageTemplate
