/-
Saving is all or nothing with respect to rendering. A rendering that fails, for whatever reason, saves
nothing and reports its own error, whether it was asked for by a program or on the command line; and a page
that is reported as saved is the page of the rendering, and stands in its file, with all other files as
they were.
-/
import PageTemplate.CommandLine
import PageTemplate.Proofs.Files.Writing

namespace PageTemplate

variable {r : Renderer} {name path page : String} {s s' : RenderState} {e : TemplateError}
  {fs fs' : FileSystem} {i : Invocation} {clock : Clock}

/-! ## Renderings -/

theorem Renderer.renderFileTo_of_error (h : (r.renderFile name).run s = (.error e, s')) :
    r.renderFileTo name path s fs = ((.error e, s'), fs) := by
  rw [renderFileTo, h]

theorem Renderer.renderFileTo_eq_ok (h : r.renderFileTo name path s fs = ((.ok page, s'), fs')) :
    (r.renderFile name).run s = (.ok page, s') ∧ fs.Saved path page fs' := by
  unfold renderFileTo at h
  rcases hrun : (r.renderFile name).run s with ⟨e | rendered, after⟩ <;> rw [hrun] at h
  · cases h
  · rcases hsave : fs.save path rendered with ⟨e | ⟨⟩, saved⟩ <;> simp only [hsave] at h
    · cases h
    · cases h
      exact ⟨rfl, FileSystem.save_saved hsave⟩

/-! ## Calls -/

namespace Invocation

/-- The same call with its page printed and not saved. -/
def printing (i : Invocation) : Invocation := { i with output := none }

theorem run_printing (i : Invocation) (clock : Clock) (fs : FileSystem) :
    i.printing.run clock fs = (some <$> i.page fs.view clock, fs) := by
  have hpage : i.printing.page fs.view clock = i.page fs.view clock := rfl
  rw [run, hpage]
  cases i.page fs.view clock <;> rfl

theorem run_of_error {fault : CommandFault} (h : i.page fs.view clock = .error fault) :
    i.run clock fs = (.error fault, fs) := by
  rw [run, h]

theorem run_eq_ok {answer : Option String} (hpath : i.output = some path)
    (h : i.run clock fs = (.ok answer, fs')) :
    ∃ page, i.page fs.view clock = .ok page ∧ fs.Saved path page fs' := by
  unfold run at h
  cases hpage : i.page fs.view clock with
  | error fault => rw [hpage] at h; cases h
  | ok page =>
    simp only [hpage, hpath] at h
    rcases hsave : fs.save path page with ⟨e | ⟨⟩, saved⟩ <;> rw [hsave] at h <;> cases h
    exact ⟨page, rfl, FileSystem.save_saved hsave⟩

/-- Where files are changed there is a page, and a file that it is for. -/
theorem exists_page_of_run_ne (h : (i.run clock fs).2 ≠ fs) :
    i.output.isSome ∧ ∃ page, i.page fs.view clock = .ok page := by
  unfold run at h
  cases hpage : i.page fs.view clock with
  | error fault => rw [hpage] at h; exact absurd rfl h
  | ok page =>
    simp only [hpage] at h
    cases houtput : i.output with
    | none => rw [houtput] at h; exact absurd rfl h
    | some path => exact ⟨rfl, page, rfl⟩

end Invocation

theorem exists_page_of_runCommandLine_ne {args : List String} (h : (runCommandLine args clock fs).2 ≠ fs) :
    ∃ i page, Request.ofArguments? args = some (.render i) ∧ i.output.isSome ∧
      i.page fs.view clock = .ok page := by
  unfold runCommandLine at h
  split at h
  · exact absurd rfl h
  · exact absurd rfl h
  · rename_i i hargs
    obtain ⟨houtput, page, hpage⟩ := i.exists_page_of_run_ne h
    exact ⟨i, page, hargs, houtput, hpage⟩

/-- Nothing is saved, and no directory made, unless the rendering has ended with a page; and what is saved
then is this page, with every other file as it was. On the command line the same holds, where the page is
the one that the call prints if no file is given for it. -/
theorem saved_only_when_rendered (fs : FileSystem) :
    (∀ (r : Renderer) name path s e s', (r.renderFile name).run s = (.error e, s') →
      r.renderFileTo name path s fs = ((.error e, s'), fs)) ∧
    (∀ (r : Renderer) name path s page s' fs', r.renderFileTo name path s fs = ((.ok page, s'), fs') →
      (r.renderFile name).run s = (.ok page, s') ∧ fs.Saved path page fs') ∧
    (∀ (i : Invocation) clock fault, (i.printing.run clock fs).1 = .error fault →
      i.run clock fs = (.error fault, fs)) ∧
    (∀ (i : Invocation) clock path answer fs', i.output = some path →
      i.run clock fs = (.ok answer, fs') →
      ∃ page, (i.printing.run clock fs).1 = .ok (some page) ∧ fs.Saved path page fs') ∧
    ∀ args clock, (runCommandLine args clock fs).2 ≠ fs →
      ∃ i page, Request.ofArguments? args = some (.render i) ∧ i.output.isSome ∧
        (i.printing.run clock fs).1 = .ok (some page) := by
  refine ⟨fun r name path s e s' h => r.renderFileTo_of_error h,
    fun r name path s page s' fs' h => r.renderFileTo_eq_ok h,
    fun i clock fault h => ?_, fun i clock path answer fs' hpath h => ?_, fun args clock h => ?_⟩
  · rw [i.run_printing, map_eq_error] at h
    exact i.run_of_error h
  · obtain ⟨page, hpage, hsaved⟩ := i.run_eq_ok hpath h
    exact ⟨page, by rw [i.run_printing, hpage]; rfl, hsaved⟩
  · obtain ⟨i, page, hargs, houtput, hpage⟩ := exists_page_of_runCommandLine_ne h
    exact ⟨i, page, hargs, houtput, by rw [i.run_printing, hpage]; rfl⟩

end PageTemplate
