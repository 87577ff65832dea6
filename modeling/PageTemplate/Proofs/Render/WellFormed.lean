/-
Every program that a rendering makes is well formed, whatever its values are: those of several lines, those
with tags or with placeholders in them, those that refer to each other or to themselves. No line in it has a
line break, no choice is without an arm, no loop without a target, no block without an instruction, and blocks
are no deeper inside each other than values may be.

The invariant is on the levels that are left: the source of a value becomes a block that is well formed at
these levels, because its lines become steps that are. For a line it does not matter where it comes from, only
that it was split off at line breaks, which is as true of a value's source as of a template's and of all that
the cache has kept.
-/
import PageTemplate.Proofs.Line.Compilation
import PageTemplate.Proofs.Line.Resolution
import PageTemplate.Proofs.Program.WellFormed
import PageTemplate.Proofs.Render.Comparison
import PageTemplate.Proofs.Render.Descent

namespace PageTemplate

/-! ## Statements -/

namespace Statement

/-- What the statement appends is a single line. -/
def OneLine : Statement → Prop
  | .literal l => '\n' ∉ l.content
  | .control _ => True

theorem oneLine_of_ofLines {buffer : String} {source : Text} {statements : List Statement}
    (h : ofLines buffer source.lines = .ok statements) : ∀ statement ∈ statements, statement.OneLine := by
  intro statement hstatement
  obtain ⟨line, hline, hreads⟩ := exists_right_of_forall₂ (reads_of_ofLines h).flip hstatement
  cases hreads with
  | literal _ hcontent =>
    subst hcontent
    exact Text.newline_not_mem_of_mem_lines hline
  | control => exact trivial

variable {ctx : Context} {expand : Text → Except TemplateError (List Node)} {levels : Nat}
  (hexpand : ∀ source nodes, expand source = .ok nodes → Node.WellFormed levels (.block nodes))
include hexpand

/-- A line that stays a single one is emitted as it is split off; one that does not is a block. -/
theorem toStep_wellFormed {statement : Statement} {step : Step} (hstatement : statement.OneLine)
    (h : statement.toStep ctx expand = .ok step) : step.WellFormed levels := by
  cases statement with
  | control c =>
    obtain ⟨c', -, rfl⟩ := map_eq_ok.1 h
    exact trivial
  | literal l =>
    obtain ⟨s, hs, hstep⟩ := bind_eq_ok.1 h
    split at hstep
    · obtain ⟨nodes, hnodes, rfl⟩ := map_eq_ok.1 hstep
      exact hexpand s.source nodes hnodes
    · rename_i hsingle
      cases hstep
      have hsource : '\n' ∉ s.source :=
        Substitution.newline_not_mem_source hs hstatement (Bool.eq_false_iff.2 hsingle)
      exact Node.WellFormed.emit fun segment hsegment hbreak =>
        hsource (List.mem_flatMap.2 ⟨segment, hsegment, hbreak⟩)

theorem wellFormed_of_mapM {statements : List Statement} {steps : List Step} {program : Program}
    (hstatements : ∀ statement ∈ statements, statement.OneLine)
    (hsteps : statements.mapM (toStep ctx expand) = .ok steps)
    (hprogram : Program.assemble steps = .ok program) : ∀ node ∈ program.nodes, node.WellFormed levels := by
  refine Program.wellFormed_of_assemble hprogram fun step hstep => ?_
  obtain ⟨statement, hstatement, hstep⟩ := exists_mem_of_mapM (mapM_eq_ok_iff.1 hsteps) hstep
  exact toStep_wellFormed hexpand (hstatements statement hstatement) hstep

end Statement

/-! ## Sources -/

namespace Renderer

variable {r : Renderer} {ctx : Context}

/-- A source becomes a block for which the levels that were left are enough. -/
theorem expand_wellFormed :
    ∀ {levels : Nat} {source : Text} {nodes : List Node}, r.expand ctx levels source = .ok nodes →
      Node.WellFormed levels (.block nodes)
  | 0, _, _, h => by cases h
  | levels + 1, source, nodes, h => by
    obtain ⟨statements, hstatements, h⟩ := bind_eq_ok.1 h
    obtain ⟨steps, hsteps, h⟩ := bind_eq_ok.1 h
    obtain ⟨program, hprogram, h⟩ := bind_eq_ok.1 h
    cases h
    have hassemble := mapError_eq_ok.1 hprogram
    refine .block ?_ (Statement.wellFormed_of_mapM (fun _ _ => expand_wellFormed)
      (Statement.oneLine_of_ofLines hstatements) hsteps hassemble)
    -- a source has a line, which makes a statement, which makes a step
    refine (Program.assemble_eq_ok_iff.1 hassemble).ne_nil ?_
    rintro rfl
    obtain rfl := List.forall₂_nil_right_iff.1 (mapM_eq_ok_iff.1 hsteps)
    exact Text.lines_ne_nil source (List.forall₂_nil_right_iff.1 (Statement.reads_of_ofLines hstatements))

theorem program_wellFormed {statements : List Statement} {program : Program}
    (hstatements : ∀ statement ∈ statements, statement.OneLine)
    (h : r.program ctx statements = .ok program) :
    ∀ node ∈ program.nodes, node.WellFormed r.options.maxIncludeDepth := by
  obtain ⟨steps, hsteps, hprogram⟩ := bind_eq_ok.1 h
  exact Statement.wellFormed_of_mapM (fun _ _ => expand_wellFormed) hstatements hsteps
    (mapError_eq_ok.1 hprogram)

end Renderer

/-! ## Whole renderings -/

/-- The second state comes after the first one: if the cache has had nothing but calls, this is still so, and
the programs that are new in front of the old ones are well formed. -/
def RenderState.Assembles (levels : Nat) (s t : RenderState) : Prop :=
  ∀ calls, s.cache = Cache.history calls →
    ∃ more new, t.cache = Cache.history (calls ++ more) ∧ t.programs = new ++ s.programs ∧
      ∀ entry ∈ new, ∀ node ∈ entry.2.nodes, node.WellFormed levels

namespace RenderState.Assembles

variable {levels : Nat}

theorem refl (s : RenderState) : s.Assembles levels s := by
  intro calls hcache
  exact ⟨[], [], by rw [hcache, List.append_nil], rfl, List.forall_mem_nil _⟩

theorem trans (s t u : RenderState) (h : s.Assembles levels t) (h' : t.Assembles levels u) :
    s.Assembles levels u := by
  intro calls hcache
  obtain ⟨first, new, hcache', hprograms, hnew⟩ := h calls hcache
  obtain ⟨second, newer, hcache'', hprograms', hnewer⟩ := h' _ hcache'
  refine ⟨first ++ second, newer ++ new, ?_, ?_, List.forall_mem_append.2 ⟨hnewer, hnew⟩⟩
  · rw [hcache'', List.append_assoc]
  · rw [hprograms', hprograms, List.append_assoc]

end RenderState.Assembles

namespace Renderer

open RenderState (Assembles)

variable {r : Renderer}

theorem page_assembles (name : String) (source : Text) :
    Leads (Assembles r.options.maxIncludeDepth) (r.page name source) := by
  intro s calls hcache
  let call : Cache.Call := .statements name ⟨source, r.options.bufferName⟩
  have hafter : (s.cache.statements name source r.options.bufferName).2 = Cache.history (calls ++ [call]) := by
    rw [Cache.history_append, hcache]
    rfl
  rw [run_page]
  cases hprogram : (s.cache.statements name source r.options.bufferName).1 >>= r.program s.context with
  | error e => exact ⟨[call], [], hafter, rfl, List.forall_mem_nil _⟩
  | ok program =>
    obtain ⟨statements, hstatements, hprogram⟩ := bind_eq_ok.1 hprogram
    rw [hcache] at hstatements
    -- an answer of the cache was split into lines too, be it those of another source
    obtain ⟨q, hcompile⟩ := Cache.exists_compile_of_statements (q := ⟨source, r.options.bufferName⟩) hstatements
    refine ⟨[call], [(name, program)], hafter, rfl, List.forall_mem_singleton.2 ?_⟩
    exact program_wellFormed (Statement.oneLine_of_ofLines hcompile) hprogram

theorem render_assembles (template : Template) :
    Leads (Assembles r.options.maxIncludeDepth) (r.render template) :=
  render_leads Assembles.refl Assembles.trans (fun s => Assembles.refl s) page_assembles template

/-- Every program that a rendering makes is well formed, with blocks no deeper inside each other than the bound,
after any history of the cache and whatever the values of the context are; and at each depth a value becomes
a block for which the levels that are left are enough. To expand values comes to an end: in every context
and under every bound, statements and sources have at each depth one outcome, and statements at depth zero
that of a rendering. -/
theorem render_assembles_wellFormed_programs (r : Renderer) (template : Template) (s : RenderState)
    (calls : List Cache.Call) (hcache : s.cache = Cache.history calls) :
    (∃ new, ((r.render template).run s).2.programs = new ++ s.programs ∧
      ∀ entry ∈ new, ∀ node ∈ entry.2.nodes, node.WellFormed r.options.maxIncludeDepth) ∧
    (∀ ctx depth source nodes, r.ExpandsTo ctx depth source (.ok nodes) →
      Node.WellFormed (r.options.maxIncludeDepth + 1 - depth) (.block nodes)) ∧
    (∀ ctx depth, (∀ source, ∃! nodes, r.ExpandsTo ctx depth source nodes) ∧
      ∀ statements, ∃! steps, r.StepsTo ctx depth statements steps) ∧
    ∀ ctx statements steps, r.StepsTo ctx 0 statements steps ↔ steps = r.steps ctx statements := by
  refine ⟨?_, fun ctx depth source nodes h => expand_wellFormed h.eq_expand.symm,
    fun ctx depth => ⟨fun source => ?_, fun statements => ?_⟩, fun ctx statements steps => stepsTo_iff⟩
  · obtain ⟨-, new, -, hprograms, hnew⟩ := render_assembles template s calls hcache
    exact ⟨new, hprograms, hnew⟩
  · exact ⟨_, expandsTo_iff.2 rfl, fun nodes h => expandsTo_iff.1 h⟩
  · exact ⟨_, stepsTo_iff.2 rfl, fun steps h => stepsTo_iff.1 h⟩

/-- Inside a loop, a value of several lines with another one in it, with a condition between its lines; and
a value that refers to itself. -/
theorem render_assembles_wellFormed_programs_of_nested_values :
    let text := "\x7b% for x in xs %\x7d\n<\x7b\x7bv\x7d\x7d>\n\x7b% end %\x7d"
    let r : Renderer :=
      { options := { maxIncludeDepth := 2 }, source := fun name => .error (.templateNotFound name) }
    let s : RenderState :=
      { context := ⟨[("v", .str "\n\x7b% if x %\x7d\n\x7b\x7bw\x7d\x7d\n\x7b% end %\x7d\n"),
          ("w", .str "\x7b\x7bx\x7d\x7d\n!"), ("xs", .list [.int 1]), ("y", .str "\n\x7b\x7by\x7d\x7d")]⟩,
        clock := ⟨fun _ => ⟨0, "", ""⟩, 0⟩, cache := [], programs := [] }
    ∃ program, ((r.render (.given text)).run s).2.programs = [("<string>", program)] ∧
      (∀ node ∈ program.nodes, node.WellFormed 2) ∧
      ((r.render (.given text)).run s).1.toOption = some "<\n1\n!\n>" ∧
      ∃! nodes, r.ExpandsTo s.context 1 ['\n', '{', '{', 'y', '}', '}'] nodes := by
  intro text r s
  obtain ⟨⟨new, hprograms, hnew⟩, -, hends, -⟩ :=
    render_assembles_wellFormed_programs r (.given text) s [] rfl
  have hone : ((r.render (.given text)).run s).2.programs.map Prod.fst = ["<string>"] := by decide +kernel
  rw [hprograms, List.append_nil] at hone ⊢
  obtain ⟨⟨name, program⟩, rfl, rfl⟩ := List.map_eq_singleton_iff.1 hone
  exact ⟨program, rfl, hnew _ List.mem_cons_self, by decide +kernel, (hends s.context 1).1 _⟩

end Renderer

end PageTemplate
