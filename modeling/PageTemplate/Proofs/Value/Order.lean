/-
The order of values. Integers, strings and booleans are ordered, each among themselves, and nothing else is, as
long as there are no doubles. The order agrees with equality in a condition, so conditions can be read as in
arithmetic: of less, equal and greater one holds, and two comparisons can be turned into each other.
-/
import PageTemplate.Expr.Eval
import PageTemplate.Proofs.Outcome
import PageTemplate.Proofs.Value.Equality

namespace PageTemplate

variable {a b c : Value} {o o' : Ordering}

/-- Where neither step goes down, the first step that goes up decides. -/
theorem compare_eq_then {α : Type} [Ord α] [Std.TransOrd α] {x y z : α} (hxy : compare x y ≠ .gt)
    (hyz : compare y z ≠ .gt) : compare x z = (compare x y).then (compare y z) := by
  cases h : compare x y with
  | lt => exact Std.TransCmp.lt_of_lt_of_isLE h (Ordering.isLE_iff_ne_gt.2 hyz)
  | eq => exact Std.TransCmp.congr_left h
  | gt => exact absurd h hxy

namespace Value

/-! ## Ordered values -/

/-- Two integers, two strings or two booleans, and their order. -/
inductive Ordered : Value → Value → Ordering → Prop
  | int (i j : Int64) : Ordered (.int i) (.int j) (compare i j)
  | str (s t : String) : Ordered (.str s) (.str t) (compare s t)
  | bool (x y : Bool) : Ordered (.bool x) (.bool y) (compare x y)

theorem compare?_eq_some_iff (ha : a.WithoutDoubles) (hb : b.WithoutDoubles) :
    a.compare? b = some o ↔ Ordered a b o := by
  constructor
  · intro h
    cases a with
    | float => exact absurd rfl ha.ne_float
    | int i =>
      cases b with
      | float => exact absurd rfl hb.ne_float
      | int j => exact Option.some.inj h ▸ .int i j
      | _ => cases h
    | str s =>
      cases b with
      | str t => exact Option.some.inj h ▸ .str s t
      | _ => cases h
    | bool x =>
      cases b with
      | bool y => exact Option.some.inj h ▸ .bool x y
      | _ => cases h
    | _ => cases h
  · intro h
    cases h <;> rfl

theorem exists_ordered_iff : (∃ o, Ordered a b o) ↔ a.kind = b.kind ∧ a.kind ∈ [.int, .str, .bool] := by
  constructor
  · rintro ⟨o, h⟩
    cases h <;> simp [kind]
  · rintro ⟨hkind, hmem⟩
    cases a with
    | int i =>
      cases b with
      | int j => exact ⟨_, .int i j⟩
      | _ => cases hkind
    | str s =>
      cases b with
      | str t => exact ⟨_, .str s t⟩
      | _ => cases hkind
    | bool x =>
      cases b with
      | bool y => exact ⟨_, .bool x y⟩
      | _ => cases hkind
    | _ => simp [kind] at hmem

namespace Ordered

theorem swap (h : Ordered a b o) : Ordered b a o.swap := by
  cases h with
  | int i j => exact (Std.OrientedOrd.eq_swap : compare j i = _) ▸ .int j i
  | str s t => exact (Std.OrientedOrd.eq_swap : compare t s = _) ▸ .str t s
  | bool x y => exact (Std.OrientedOrd.eq_swap : compare y x = _) ▸ .bool y x

theorem trans (hab : Ordered a b o) (hbc : Ordered b c o') (ho : o ≠ .gt) (ho' : o' ≠ .gt) :
    Ordered a c (o.then o') := by
  cases hab with
  | int i j => cases hbc with | int j k => exact compare_eq_then ho ho' ▸ .int i k
  | str s t => cases hbc with | str t u => exact compare_eq_then ho ho' ▸ .str s u
  | bool x y => cases hbc with | bool y z => exact compare_eq_then ho ho' ▸ .bool x z

/-- The order and equality in a condition agree. -/
theorem alike_eq (h : Ordered a b o) : a.alike b = (o == .eq) := by
  rw [Bool.eq_iff_iff, beq_iff_eq]
  cases h with
  | int i j => exact beq_iff_eq.trans Std.LawfulEqCmp.compare_eq_iff_eq.symm
  | str s t => exact beq_iff_eq.trans Std.LawfulEqCmp.compare_eq_iff_eq.symm
  | bool x y => exact beq_iff_eq.trans Std.LawfulEqCmp.compare_eq_iff_eq.symm

/-- Of ordered values every relation is decided by their order. -/
theorem holds (ha : a.WithoutDoubles) (hb : b.WithoutDoubles) (h : Ordered a b o) (r : Relation) :
    (Comparison.relation r).holds a b = .ok (r.accepts o) := by
  have horder := (compare?_eq_some_iff ha hb).2 h
  cases r with
  | eq => rw [Comparison.holds, h.alike_eq, Relation.accepts]
  | ne => rw [Comparison.holds, h.alike_eq, Relation.accepts, bne]
  | lt | le | gt | ge => simp only [Comparison.holds, horder]

/-- Only a value and itself are equal in order. -/
theorem eq_iff (h : Ordered a b o) : o = .eq ↔ a = b := by
  cases h with
  | int i j => exact Std.LawfulEqCmp.compare_eq_iff_eq.trans (by simp)
  | str s t => exact Std.LawfulEqCmp.compare_eq_iff_eq.trans (by simp)
  | bool x y => exact Std.LawfulEqCmp.compare_eq_iff_eq.trans (by simp)

end Ordered

/-- The order turns around with its operands. -/
theorem compare?_swap (ha : a.WithoutDoubles) (hb : b.WithoutDoubles) :
    b.compare? a = (a.compare? b).map Ordering.swap := by
  cases h : a.compare? b with
  | some o => exact (compare?_eq_some_iff hb ha).2 ((compare?_eq_some_iff ha hb).1 h).swap
  | none =>
    rw [Option.map_none, Option.eq_none_iff_forall_ne_some]
    intro o ho
    rw [(compare?_eq_some_iff ha hb).2 ((compare?_eq_some_iff hb ha).1 ho).swap] at h
    cases h

/-- Only two integers, two strings and two booleans are ordered. -/
theorem isSome_compare?_iff (ha : a.WithoutDoubles) (hb : b.WithoutDoubles) :
    (a.compare? b).isSome = true ↔ a.kind = b.kind ∧ a.kind ∈ [.int, .str, .bool] := by
  rw [Option.isSome_iff_exists, ← exists_ordered_iff]
  exact exists_congr fun o => compare?_eq_some_iff ha hb

end Value

/-! ## Relations between expressions -/

theorem eval_relation {env : String → Option Value} {e f : Expr} (ha : a.WithoutDoubles) (hb : b.WithoutDoubles)
    (he : e.eval env = .ok a) (hf : f.eval env = .ok b) (h : a.Ordered b o) (r : Relation) :
    (Expr.compare e (.relation r) f).eval env = .ok (.bool (r.accepts o)) := by
  rw [Expr.eval, he, ok_bind, hf, ok_bind, h.holds ha hb, ok_bind]
  rfl

/-- Of less, equal and greater one holds, and the other relations come down to them. -/
theorem relations_of_order (o : Ordering) :
    [Relation.lt.accepts o, Relation.eq.accepts o, Relation.gt.accepts o].count true = 1 ∧
      Relation.le.accepts o = (Relation.lt.accepts o || Relation.eq.accepts o) ∧
      Relation.ge.accepts o = (Relation.gt.accepts o || Relation.eq.accepts o) ∧
      Relation.lt.accepts o.swap = Relation.gt.accepts o := by
  cases o <;> decide

/-- Equality and order of values without doubles. Equality in a condition is an equivalence, which holds of values
with the same content, whatever the order of entries, and of a boolean and the number that it counts as. Only two
integers, two strings and two booleans are ordered; the order turns around with its operands, goes over from one
step to the next, and calls just those equal that are equal, in a condition or at all. So of two expressions with
such values one is less, equal or greater, never two of these; the other relations come down to these, and greater
is less the other way round. -/
theorem Value.order_agrees_with_equality (a b c : Value) (ha : a.Exact) (hb : b.Exact) (hc : c.Exact) :
    (Equivalence fun a b : {v : Value // v.Exact} => a.1.alike b.1 = true) ∧
    (a.alike b = true ↔ a.SameContent b ∨ a.CountsAs b ∨ b.CountsAs a) ∧
    ((a.compare? b).isSome = true ↔ a.kind = b.kind ∧ a.kind ∈ [.int, .str, .bool]) ∧
    b.compare? a = (a.compare? b).map Ordering.swap ∧
    (∀ o o', a.compare? b = some o → b.compare? c = some o' → o ≠ .gt → o' ≠ .gt →
      a.compare? c = some (o.then o')) ∧
    (∀ o, a.compare? b = some o → (o = .eq ↔ a.alike b = true) ∧ (o = .eq ↔ a = b)) ∧
    ∀ env (e f : Expr), e.eval env = .ok a → f.eval env = .ok b → (a.compare? b).isSome = true →
      ∃ holds : Relation → Bool,
        (∀ r, (Expr.compare e (.relation r) f).eval env = .ok (.bool (holds r))) ∧
        [holds .lt, holds .eq, holds .gt].count true = 1 ∧
        holds .le = (holds .lt || holds .eq) ∧ holds .ge = (holds .gt || holds .eq) ∧
        (Expr.compare f (.relation .lt) e).eval env = .ok (.bool (holds .gt)) := by
  have hordered {o : Ordering} : a.compare? b = some o → a.Ordered b o := (compare?_eq_some_iff ha.2 hb.2).1
  refine ⟨equivalence_alike, alike_iff ha.1 ha.2 hb.2, isSome_compare?_iff ha.2 hb.2, compare?_swap ha.2 hb.2,
    fun o o' hab hbc ho ho' => ?_, fun o h => ⟨?_, (hordered h).eq_iff⟩, fun env e f he hf hsome => ?_⟩
  · have hbc := (compare?_eq_some_iff hb.2 hc.2).1 hbc
    exact (compare?_eq_some_iff ha.2 hc.2).2 ((hordered hab).trans hbc ho ho')
  · rw [(hordered h).alike_eq, beq_iff_eq]
  · obtain ⟨o, ho⟩ := Option.isSome_iff_exists.1 hsome
    obtain ⟨hone, hle, hge, hswap⟩ := relations_of_order o
    refine ⟨fun r => r.accepts o, eval_relation ha.2 hb.2 he hf (hordered ho), hone, hle, hge, ?_⟩
    rw [eval_relation hb.2 ha.2 hf he (hordered ho).swap, hswap]

/-- Three numbers, the first of them under a name, and two maps that list their entries in different orders. -/
theorem Value.order_agrees_with_equality_of_numbers :
    let env : String → Option Value := fun name => if name = "n" then some (.int (-1)) else none
    let one : Value := .map [("x", .bool true), ("y", .null)]
    let other : Value := .map [("y", .null), ("x", .bool true)]
    (∀ i, (Value.int i).Exact) ∧ one.Exact ∧ other.Exact ∧
      (Value.int (-1)).compare? (.int 7) = some .lt ∧
      (∃ holds : Relation → Bool,
        (∀ r, (Expr.compare (.name "n") (.relation r) (.literal (.int 0))).eval env = .ok (.bool (holds r))) ∧
        [holds .lt, holds .eq, holds .gt].count true = 1) ∧
      one.alike other = true ∧ (one.SameContent other ∨ one.CountsAs other ∨ other.CountsAs one) := by
  intro env one other
  have hint (i : Int64) : (Value.int i).Exact := .scalar (by simp [kind])
  have hentry : ∀ entry ∈ [("x", Value.bool true), ("y", .null)], entry.2.Exact := fun entry h => by
    rcases List.mem_pair.1 h with rfl | rfl <;> exact .scalar (by simp [kind])
  have hone : one.Exact := .map (by decide) hentry
  have hother : other.Exact := .map (by decide) fun entry h => hentry entry (List.mem_pair.2 (List.mem_pair.1 h).symm)
  obtain ⟨-, -, -, -, htrans, -, heval⟩ :=
    order_agrees_with_equality (.int (-1)) (.int 0) (.int 7) (hint _) (hint _) (hint _)
  obtain ⟨-, hcontent, -⟩ := order_agrees_with_equality one other one hone hother hone
  obtain ⟨holds, hholds, hcount, -⟩ := heval env (.name "n") (.literal (.int 0)) rfl rfl (by decide)
  have halike : one.alike other = true := rfl
  exact ⟨hint, hone, hother, htrans .lt .lt (by decide) (by decide) (by decide) (by decide), ⟨holds, hholds, hcount⟩,
    halike, hcontent.1 halike⟩

end PageTemplate
