/-
The rounds of a loop. A string, a list and a map have a length, and a loop over one of them starts as many
rounds, if no round fails; whatever its body has done in a round so far, the item of the round is in what the
loop goes through. Nothing else has a length, and a loop over anything else fails, or, over null, has no rounds.

What a round sees is the context as it was, since instructions only write lines, and its variable above the
stack of the loop, since each round takes its variable off the stack again.
-/
import PageTemplate.Proofs.Expr.Printing
import PageTemplate.Proofs.Program.Locals
import PageTemplate.Proofs.Program.Reference
import PageTemplate.Proofs.Render.Directives
import PageTemplate.Proofs.Value.Equality

namespace PageTemplate

open PageTemplate.Symbol (Spelled)

/-! ## What a loop goes through -/

namespace Value

variable {v item : Value} {items : List Value}

theorem length?_of_iterated (h : v.iterated = .ok items) (hnull : v ≠ .null) : v.length? = some items.length := by
  cases v with
  | null => exact absurd rfl hnull
  | str s =>
    cases h
    rw [length?, List.length_map, String.length_toList]
  | list => cases h; rfl
  | map fields =>
    cases h
    rw [length?, List.length_map]
  | bool | int | float => cases h

theorem exists_iterated (h : v.kind ∈ [.str, .list, .map]) : ∃ items, v.iterated = .ok items ∧ v ≠ .null := by
  cases v with
  | str | list | map => exact ⟨_, rfl, nofun⟩
  | null | bool | int | float => simp [kind] at h

/-- Nothing else has a length, and a loop over it has no rounds or fails. -/
theorem length?_eq_none (h : v.kind ∉ [.str, .list, .map]) :
    v.length? = none ∧ v.iterated = if v.isNull then .ok [] else .error (.notIterable v.kind) := by
  cases v with
  | str | list | map => simp [kind] at h
  | null | bool | int | float => exact ⟨rfl, rfl⟩

/-- What a loop goes through is in what it comes from: the characters in their string, the keys in their map, and
the items, which are alike to themselves, in their list. -/
theorem contains_of_mem_iterated (hexact : v.Exact) (h : v.iterated = .ok items) (hitem : item ∈ items) :
    v.contains item = .ok true := by
  cases v with
  | str s =>
    cases h
    obtain ⟨c, hc, rfl⟩ := List.mem_map.1 hitem
    obtain ⟨before, behind, hs⟩ := List.append_of_mem hc
    have hpart : [c] <:+: s.toList := ⟨before, behind, by rw [hs, List.append_assoc, List.singleton_append]⟩
    rw [contains, Char.toString_eq_singleton, String.toList_singleton, Text.contains_iff.2 hpart]
  | list =>
    cases h
    have hself : item.alike item = true := (hexact.items item hitem).alike_self
    exact congrArg Except.ok (List.any_eq_true.2 ⟨item, hitem, hself⟩)
  | map fields =>
    cases h
    obtain ⟨⟨key, value⟩, hentry, rfl⟩ := List.mem_map.1 hitem
    obtain ⟨found, hfound⟩ := Fields.mem_names_iff.1 (Fields.mem_names_of_mem hentry)
    rw [contains, hfound, Option.isSome_some]
  | null =>
    cases h
    cases hitem
  | bool | int | float => cases h

end Value

/-! ## Rounds -/

/-- The scope with one more variable. -/
def Scope.enter (scope : Scope) (name : String) (item : Value) : Scope :=
  { scope with locals := (name, item) :: scope.locals }

/-- The scopes in which a loop starts its body, for one item after the other until one fails, and how it ends. -/
inductive Rounds (name : String) (body : List Node) :
    List Value → Scope → List Scope → Except EvaluationFault Unit × Scope → Prop
  | done (scope : Scope) : Rounds name body [] scope [] (.ok (), scope)
  | failed {item : Value} {items : List Value} {scope after : Scope} {fault : EvaluationFault} :
      (Run.binding [(name, item)] (runNodes body)).run scope = (.error fault, after) →
      Rounds name body (item :: items) scope [scope.enter name item] (.error fault, after)
  | next {item : Value} {items : List Value} {scope after : Scope} {starts : List Scope}
      {ending : Except EvaluationFault Unit × Scope} :
      (Run.binding [(name, item)] (runNodes body)).run scope = (.ok (), after) →
      Rounds name body items after starts ending →
      Rounds name body (item :: items) scope (scope.enter name item :: starts) ending

namespace Rounds

variable {name : String} {body : List Node} {items : List Value} {scope : Scope} {starts : List Scope}
  {ending : Except EvaluationFault Unit × Scope}

theorem exists_of_forM (name : String) (body : List Node) : ∀ (items : List Value) (scope : Scope),
    ∃ starts, Rounds name body items scope starts
      ((items.forM fun item => Run.binding [(name, item)] (runNodes body)).run scope)
  | [], scope => ⟨[], .done scope⟩
  | item :: items, scope => by
    have hforM : ((item :: items).forM fun item => Run.binding [(name, item)] (runNodes body)) =
        Run.binding [(name, item)] (runNodes body) >>= fun _ =>
          items.forM fun item => Run.binding [(name, item)] (runNodes body) := rfl
    rw [hforM, run_bind]
    rcases hround : (Run.binding [(name, item)] (runNodes body)).run scope with ⟨_ | ⟨⟩, after⟩
    · exact ⟨_, .failed hround⟩
    · obtain ⟨starts, hrest⟩ := exists_of_forM name body items after
      exact ⟨_, .next hround hrest⟩

/-- No item has two rounds. -/
theorem length_le (h : Rounds name body items scope starts ending) : starts.length ≤ items.length := by
  induction h with
  | done => exact Nat.le_refl _
  | failed => exact Nat.succ_le_succ (Nat.zero_le _)
  | next _ _ ih => exact Nat.succ_le_succ ih

/-- Every item has a round, and the loop comes to its end, if the body does so in each round. -/
theorem complete (h : Rounds name body items scope starts ending)
    (hok : ∀ start ∈ starts, ((runNodes body).run start).1 = .ok ()) :
    starts.length = items.length ∧ ending.1 = .ok () := by
  induction h with
  | done => exact ⟨rfl, rfl⟩
  | @failed item _ scope _ _ hround =>
    -- a round fails as its body does
    have hbody : ((Run.binding [(name, item)] (runNodes body)).run scope).1 = .ok () :=
      hok _ (List.mem_singleton_self _)
    rw [hround] at hbody
    cases hbody
  | next _ _ ih =>
    obtain ⟨hlength, hend⟩ := ih (List.forall_mem_cons.1 hok).2
    exact ⟨congrArg Nat.succ hlength, hend⟩

/-- A round starts with its variable above the stack of the loop, and behind what was written in earlier rounds. -/
theorem exists_enter (h : Rounds name body items scope starts ending) {start : Scope} (hstart : start ∈ starts) :
    ∃ item ∈ items, (scope.enter name item).Extends start := by
  induction h with
  | done => cases hstart
  | failed =>
    cases List.mem_singleton.1 hstart
    exact ⟨_, List.mem_cons_self, .refl _⟩
  | @next item _ scope _ _ _ hround _ ih =>
    rcases List.mem_cons.1 hstart with rfl | hstart
    · exact ⟨item, List.mem_cons_self, .refl _⟩
    · -- the round before took its variable off the stack, and left nothing but lines
      obtain ⟨later, hlater, hextends⟩ := ih hstart
      have hafter := Run.binding_extends [(name, item)] (runNodes_extends body) scope
      rw [hround] at hafter
      obtain ⟨written, rfl⟩ := hafter
      exact ⟨later, List.mem_cons_of_mem _ hlater, .trans _ _ _ ⟨written, rfl⟩ hextends⟩

end Rounds

theorem Expr.eval_name {env : String → Option Value} {x : String} {v : Value} (h : env x = some v) :
    (Expr.name x).eval env = .ok v := by
  rw [eval, h, Option.getD_some]

/-- A loop goes through the items of its source, or fails as these do. -/
theorem run_loop {name : String} {source : Expr} {scope : Scope} {v : Value} (body : List Node)
    (h : source.eval scope.get? = .ok v) :
    (Node.run (.loop ⟨[name], source⟩ body)).run scope =
      (liftM v.iterated >>= fun items =>
        items.forM fun item => Run.binding [(name, item)] (runNodes body) : Run Unit).run scope := by
  have hget : (get : Run Scope).run scope = (.ok scope, scope) := rfl
  have hitem : (fun item => do
      let bindings ← LoopHeader.bindings ⟨[name], source⟩ item
      Run.binding bindings (runNodes body) : Value → Run Unit) =
        fun item => Run.binding [(name, item)] (runNodes body) := rfl
  rw [Node.run, run_bind, hget]
  dsimp only
  rw [hitem, h, run_bind, run_lift]

/-! ## What a round sees -/

/-- Lines that are written are seen under the name of the output only. -/
theorem Scope.Extends.get?_of_ne_buffer {scope inner : Scope} {name : String} (h : scope.Extends inner)
    (hne : name ≠ scope.buffer) : inner.get? name = scope.get? name := by
  obtain ⟨written, rfl⟩ := h
  have hsame : name ≠ { scope with output := scope.output ++ written.toArray }.buffer := hne
  rw [Scope.get?_eq_visible hsame, Scope.get?_eq_visible hne]
  rfl

/-- In a round the variable has the item, whatever its name is. -/
theorem Scope.Extends.get?_variable {scope inner : Scope} {name : String} {item : Value}
    (h : (scope.enter name item).Extends inner) : inner.get? name = some item := by
  obtain ⟨written, rfl⟩ := h
  simp [Scope.get?, Scope.enter, Fields.get?]

/-- In a round all other names have the values that they had in front of the loop, but for the output. -/
theorem Scope.Extends.get?_other {scope inner : Scope} {name other : String} {item : Value}
    (h : (scope.enter name item).Extends inner) (hne : name ≠ other) (hbuffer : other ≠ scope.buffer) :
    inner.get? other = scope.get? other := by
  have hinner : other ≠ (scope.enter name item).buffer := hbuffer
  rw [h.get?_of_ne_buffer hbuffer, Scope.get?_eq_visible hinner, Scope.get?_eq_visible hbuffer, Scope.visible,
    Scope.visible, Scope.enter, Fields.get?, if_neg hne]

/-! ## The texts of the expressions -/

namespace Expr

variable {n m : String}

theorem parse_length (h : (Expr.name n).Printable) :
    Expr.parse ("len(".toList ++ (n.toList ++ [')'])) = .ok (.length (.name n)) := by
  have hclose : Spelled [.closeParen] [')'] :=
    Spelled.cons (List.forall_mem_nil _) .closeParen trivial (.nil (List.forall_mem_nil _))
  have hname : Spelled [.name n, .closeParen] (n.toList ++ [')']) :=
    spelled_name h.1 (by rintro c ⟨⟩; decide +kernel) hclose
  have hopen := Spelled.cons (List.forall_mem_nil _) Symbol.Word.openParen trivial hname
  have hlen := Spelled.cons (List.forall_mem_nil _) (word_of_mem "len" (by simp))
    (by rintro c ⟨⟩; decide +kernel) hopen
  exact (Printed.operand (.length (.operand h.operand_name))).parse (by simpa using hlen)

theorem parse_within (h : (Expr.name n).Printable) (h' : (Expr.name m).Printable) :
    Expr.parse (n.toList ++ (" in ".toList ++ m.toList)) = .ok (.compare (.name n) .within (.name m)) := by
  have hspelled := spelled_header (List.forall_mem_nil _) (spelled_name_self h'.1) (List.forall_mem_singleton.2 h.1)
  exact (Printed.compare .within h.operand_name h'.operand_name).parse
    (by simpa [moreSymbols, Comparison.symbols] using hspelled)

theorem parse_notWithin (h : (Expr.name n).Printable) (h' : (Expr.name m).Printable) :
    Expr.parse (n.toList ++ (" not in ".toList ++ m.toList)) = .ok (.compare (.name n) .notWithin (.name m)) := by
  have hin : Spelled [.name "in", .name m] ([' '] ++ ("in".toList ++ ([' '] ++ m.toList))) :=
    .cons (by decide) (word_of_mem "in" (by simp)) (by rintro c ⟨⟩; decide +kernel)
      ((spelled_name_self h'.1).behind_blanks (by decide))
  have hnot : Spelled (Comparison.notWithin.symbols ++ [.name m])
      ([' '] ++ ("not".toList ++ ([' '] ++ ("in".toList ++ ([' '] ++ m.toList))))) :=
    .cons (by decide) (word_of_mem "not" (by simp)) (by rintro c ⟨⟩; decide +kernel) hin
  have hspelled := spelled_name h.1 (by rintro c ⟨⟩; decide +kernel) hnot
  exact (Printed.compare .notWithin h.operand_name h'.operand_name).parse (by simpa using hspelled)

end Expr

/-! ## Loops, lengths and membership -/

section

variable {env : String → Option Value} {x i : String} {v item : Value}

theorem Expr.eval_length_of_some {n : Nat} (h : env x = some v) (hn : v.length? = some n) :
    (Expr.length (.name x)).eval env = .ok (.ofNat n) := by
  rw [eval, eval_name h, ok_bind, hn]
  rfl

theorem Expr.eval_length_of_none (h : env x = some v) (hn : v.length? = none) :
    (Expr.length (.name x)).eval env = .error (.noLength v.kind) := by
  rw [eval, eval_name h, ok_bind, hn]

theorem Expr.eval_membership (h : env x = some v) (h' : env i = some item) (hin : v.contains item = .ok true) :
    (Expr.compare (.name i) .within (.name x)).eval env = .ok (.bool true) ∧
      (Expr.compare (.name i) .notWithin (.name x)).eval env = .ok (.bool false) := by
  have hwithin : Comparison.within.holds item v = .ok true := hin
  have hnot : Comparison.notWithin.holds item v = .ok false := by
    rw [Comparison.holds, hin]
    rfl
  constructor
  · rw [eval, eval_name h, eval_name h', ok_bind, ok_bind, hwithin]
    rfl
  · rw [eval, eval_name h, eval_name h', ok_bind, ok_bind, hnot]
    rfl

end

/-- Length, loops and membership agree. A value under a name has a length if it is a string, a list or a map. A loop
over it then has as many rounds, if its body does not fail in one of them, and wherever the body is in its round,
what the variable stands for is in the value. Anything else has no length, and a loop over it has no rounds, for
null, or fails. -/
theorem loop_visits_members (scope : Scope) (x i : String) (v : Value) (body : List Node)
    (hx : (Expr.name x).Printable) (hi : (Expr.name i).Printable) (hne : i ≠ x) (hbuffer : x ≠ scope.buffer)
    (hv : scope.get? x = some v) (hexact : v.Exact) :
    (Expr.parse ("len(".toList ++ (x.toList ++ [')'])) = .ok (.length (.name x)) ∧
      Expr.parse (i.toList ++ (" in ".toList ++ x.toList)) = .ok (.compare (.name i) .within (.name x)) ∧
      Expr.parse (i.toList ++ (" not in ".toList ++ x.toList)) = .ok (.compare (.name i) .notWithin (.name x)) ∧
      Expr.parseHeader (i.toList ++ (" in ".toList ++ x.toList)) = .ok ⟨[i], .name x⟩) ∧
    ((∃ n, (Expr.length (.name x)).eval scope.get? = .ok n) ↔ v.kind ∈ [.str, .list, .map]) ∧
    (v.kind ∈ [.str, .list, .map] → ∃ items starts ending,
      v.length? = some items.length ∧ (Expr.length (.name x)).eval scope.get? = .ok (.ofNat items.length) ∧
      (Node.run (.loop ⟨[i], .name x⟩ body)).run scope = ending ∧
      Rounds i body items scope starts ending ∧
      starts.length ≤ items.length ∧
      ((∀ start ∈ starts, ((runNodes body).run start).1 = .ok ()) →
        starts.length = items.length ∧ ending.1 = .ok ()) ∧
      ∀ start ∈ starts, ∀ inner, start.Extends inner →
        (Expr.compare (.name i) .within (.name x)).eval inner.get? = .ok (.bool true) ∧
        (Expr.compare (.name i) .notWithin (.name x)).eval inner.get? = .ok (.bool false)) ∧
    (v.kind ∉ [.str, .list, .map] →
      (Expr.length (.name x)).eval scope.get? = .error (.noLength v.kind) ∧
      (Node.run (.loop ⟨[i], .name x⟩ body)).run scope =
        (if v.isNull then .ok () else .error (.notIterable v.kind), scope)) := by
  have hsource := Expr.eval_name hv
  have hsome (hkind : v.kind ∈ [.str, .list, .map]) :
      ∃ items, v.iterated = .ok items ∧ v.length? = some items.length := by
    obtain ⟨items, hitems, hnull⟩ := Value.exists_iterated hkind
    exact ⟨items, hitems, Value.length?_of_iterated hitems hnull⟩
  have hnone (hkind : v.kind ∉ [.str, .list, .map]) :
      (Expr.length (.name x)).eval scope.get? = .error (.noLength v.kind) :=
    Expr.eval_length_of_none hv (Value.length?_eq_none hkind).1
  refine ⟨⟨Expr.parse_length hx, Expr.parse_within hi hx, Expr.parse_notWithin hi hx, ?_⟩, ⟨fun ⟨n, hn⟩ => ?_,
    fun hkind => ?_⟩, fun hkind => ?_, fun hkind => ⟨hnone hkind, ?_⟩⟩
  · exact (Expr.Printed.operand hx.operand_name).parseHeader (Expr.spelled_name_self hx.1) hi.1 hi.2.1
  · by_contra hkind
    rw [hnone hkind] at hn
    cases hn
  · obtain ⟨items, -, hlength⟩ := hsome hkind
    exact ⟨_, Expr.eval_length_of_some hv hlength⟩
  · obtain ⟨items, hitems, hlength⟩ := hsome hkind
    have hloop : (Node.run (.loop ⟨[i], .name x⟩ body)).run scope = _ := run_loop body hsource
    rw [hitems] at hloop
    obtain ⟨starts, hrounds⟩ := Rounds.exists_of_forM i body items scope
    refine ⟨items, starts, _, hlength, Expr.eval_length_of_some hv hlength, hloop, hrounds, hrounds.length_le,
      hrounds.complete, fun start hstart inner hinner => ?_⟩
    obtain ⟨item, hitem, hextends⟩ := hrounds.exists_enter hstart
    have hround := hextends.trans _ _ _ hinner
    exact Expr.eval_membership ((hround.get?_other hne hbuffer).trans hv) hround.get?_variable
      (Value.contains_of_mem_iterated hexact hitems hitem)
  · rw [run_loop body hsource, (Value.length?_eq_none hkind).2]
    cases v.isNull <;> rfl

/-- A loop over a map, with a body that asks for its variable and for its length. -/
theorem loop_visits_members_of_map :
    let v : Value := .map [("a", .int 1), ("b", .null)]
    let scope : Scope := ⟨⟨[("m", v)]⟩, [], "lines", #[]⟩
    let within : Expr := .compare (.name "k") .within (.name "m")
    let body : List Node := [.choice (.test within [.emit [.text ['+']]] (.test (.length (.name "k")) [] .done))]
    (Expr.length (.name "m")).eval scope.get? = .ok (.int 2) ∧
      (Node.run (.loop ⟨["k"], .name "m"⟩ body)).run scope = (.ok (), { scope with output := #[['+'], ['+']] }) ∧
      ∃ items starts, items.length = 2 ∧
        Rounds "k" body items scope starts ((Node.run (.loop ⟨["k"], .name "m"⟩ body)).run scope) ∧
        ∀ start ∈ starts, within.eval start.get? = .ok (.bool true) := by
  intro v scope within body
  have hidentifier : ∀ n ∈ ["m", "k"], Symbol.IsIdentifier n.toList := by decide +kernel
  have hname : ∀ n ∈ ["m", "k"], Expr.IsName n := by decide
  have hprintable : ∀ n ∈ ["m", "k"], (Expr.name n).Printable := fun n hn => by
    refine ⟨hidentifier n hn, hname n hn, ?_⟩
    rcases List.mem_pair.1 hn with rfl | rfl <;> simp [Expr.literalWords]
  have hentry : ∀ entry ∈ [("a", Value.int 1), ("b", .null)], entry.2.Exact := fun entry h => by
    rcases List.mem_pair.1 h with rfl | rfl <;> exact .scalar (by simp [Value.kind])
  have hexact : v.Exact := .map (by decide) hentry
  obtain ⟨-, -, hloop, -⟩ := loop_visits_members scope "m" "k" v body (hprintable _ (by simp))
    (hprintable _ (by simp)) (by decide) (by decide) rfl hexact
  obtain ⟨items, starts, _, hlength, -, rfl, hrounds, -, -, hmembers⟩ := hloop (by simp [v, Value.kind])
  exact ⟨rfl, rfl, items, starts, (Option.some.inj hlength).symm, hrounds,
    fun start hstart => (hmembers start hstart start (.refl _)).1⟩

end PageTemplate
