/-
Loop variables. However instructions end, with all lines written or with a fault in a condition, in what a
loop goes through, in the parts of an item or deep inside a body, the stack of loop variables is the one
they were started with, and what had been written is still the beginning of the output.

Each round of a loop puts one variable on the stack for each of its targets, or none at all; so the
variables that are taken off after the round, one for each target, are those that it has put there.
-/
import PageTemplate.Program.Run
import PageTemplate.Proofs.Agreement

namespace PageTemplate

/-- The second scope is the first one with more lines in its output. -/
def Scope.Extends (scope scope' : Scope) : Prop :=
  ∃ written : List Text, scope' = { scope with output := scope.output ++ written.toArray }

namespace Scope.Extends

theorem refl (scope : Scope) : scope.Extends scope := by
  refine ⟨[], ?_⟩
  rw [Array.append_empty]

theorem trans (first second third : Scope) (h : first.Extends second) (h' : second.Extends third) :
    first.Extends third := by
  obtain ⟨written, rfl⟩ := h
  obtain ⟨more, rfl⟩ := h'
  refine ⟨written ++ more, ?_⟩
  have houtput : first.output ++ written.toArray ++ more.toArray =
      first.output ++ (written ++ more).toArray := by
    simp
  rw [← houtput]

theorem append (scope : Scope) (line : Text) : scope.Extends (scope.append line) := by
  refine ⟨[line], ?_⟩
  rw [Scope.append, Array.push_eq_append]

end Scope.Extends

/-! ## One round of a loop -/

/-- A round binds the targets of its loop, each of them once and in their order. -/
theorem LoopHeader.names_of_bindings {header : LoopHeader} {item : Value} {bindings : Fields Value}
    (h : header.bindings item = .ok bindings) : bindings.names = header.targets := by
  unfold LoopHeader.bindings at h
  split at h
  · rename_i name htargets
    cases h
    rw [htargets]
    rfl
  · rename_i parts _
    split at h
    · rename_i hlength
      cases h
      exact List.map_fst_zip (Nat.le_of_eq hlength.symm)
    · cases h
  · cases h

/-- More variables for the time of a body: whatever the body writes, they are gone afterwards. -/
theorem Run.binding_extends (bindings : Fields Value) {body : Run Unit}
    (hbody : Leads Scope.Extends body) : Leads Scope.Extends (Run.binding bindings body) := by
  intro scope
  obtain ⟨written, hafter⟩ := hbody { scope with locals := bindings.reverse ++ scope.locals }
  refine ⟨written, ?_⟩
  have hrun : ((Run.binding bindings body).run scope).2 =
      { (body.run { scope with locals := bindings.reverse ++ scope.locals }).2 with
        locals := (body.run { scope with locals := bindings.reverse ++ scope.locals }).2.locals.drop
          bindings.length } := rfl
  have hdrop : (bindings.reverse ++ scope.locals).drop bindings.length = scope.locals := by
    rw [← List.length_reverse, List.drop_left]
  rw [hrun, hafter]
  dsimp only
  rw [hdrop]

namespace Leads

variable {R : Scope → Scope → Prop} (hrefl : ∀ s, R s s) (htrans : ∀ s t u, R s t → R t u → R s u)
include hrefl htrans

/-- What is read from a scope does not change it. -/
theorem reading {α : Type} {v : (String → Option Value) → Except EvaluationFault α} {f : α → Run Unit}
    (hf : ∀ a, Leads R (f a)) : Leads R (do let a ← v (← get).get?; f a : Run Unit) := by
  intro scope
  exact (Leads.lift hrefl (v scope.get?)).bind htrans hf scope

theorem repeated {α : Type} {f : α → Run Unit} (hf : ∀ item, Leads R (f item)) :
    ∀ items : List α, Leads R (items.forM f)
  | [] => hrefl
  | item :: items => (hf item).bind htrans fun _ => repeated hf items

end Leads

/-! ## Programs -/

section

open Scope.Extends (refl trans)

mutual

theorem Node.run_extends : ∀ node : Node, Leads Scope.Extends node.run
  | .emit segments => fun scope => Scope.Extends.append scope _
  | .block nodes => runNodes_extends nodes
  | .choice arms => arms.run_extends
  | .loop header body => by
    rw [Node.run]
    refine Leads.reading refl trans (v := header.source.eval) fun source => ?_
    refine (Leads.lift refl source.iterated).bind trans fun items => ?_
    -- a round that fails ends the loop, behind its own variables like any other
    refine Leads.repeated refl trans (fun item => ?_) items
    refine (Leads.lift refl (header.bindings item)).bind trans fun bindings => ?_
    exact Run.binding_extends bindings (runNodes_extends body)

theorem Arms.run_extends : ∀ arms : Arms, Leads Scope.Extends arms.run
  | .done => refl
  | .otherwise body => runNodes_extends body
  | .test condition body rest => by
    rw [Arms.run]
    refine Leads.reading refl trans (v := condition.eval) fun v => ?_
    split
    · exact runNodes_extends body
    · exact rest.run_extends

theorem runNodes_extends (nodes : List Node) : Leads Scope.Extends (runNodes nodes) := by
  cases nodes with
  | nil => exact refl
  | cons node rest => exact node.run_extends.bind trans fun _ => runNodes_extends rest

end

end

/-- Loop variables never leak. Instructions that are run in a scope, to their end or to a fault, leave the
context and the stack of loop variables as they were, with all variables that are hidden or doubled, and
add lines to the output. And a round of a loop takes off what it has put on the stack: it binds the targets
of its loop, each of them once and in their order. -/
theorem runNodes_keeps_locals (nodes : List Node) (scope : Scope) :
    (∃ result written, (runNodes nodes).run scope =
      (result, { scope with output := scope.output ++ List.toArray written })) ∧
    ∀ (header : LoopHeader) (item : Value) (bindings : Fields Value),
      header.bindings item = .ok bindings → bindings.names = header.targets := by
  refine ⟨?_, fun header item bindings => header.names_of_bindings⟩
  obtain ⟨written, hafter⟩ := runNodes_extends nodes scope
  exact ⟨((runNodes nodes).run scope).1, written, Prod.ext rfl hafter⟩

end PageTemplate
