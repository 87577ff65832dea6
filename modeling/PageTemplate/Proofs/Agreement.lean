/-
Two computations side by side. They agree if, started in related states, they give the same answer and
end in related states, except where the first one fails with an error that is set apart. What agrees
part by part agrees as a whole, so two renderings have to be compared only where something looks at
the difference between them. Of a single computation the same is said of the states before and after.
-/
import PageTemplate.Proofs.Outcome

namespace PageTemplate

variable {ε ε' α β σ : Type}

/-! ## Outcomes -/

/-- Two outcomes are the same, except where the first one is an error in `P`. -/
def SameUnless (P : ε → Prop) (x y : Except ε α) : Prop := (∃ e, x = .error e ∧ P e) ∨ x = y

namespace SameUnless

variable {P : ε → Prop}

theorem refl (x : Except ε α) : SameUnless P x x := .inr rfl

theorem bind {x y : Except ε α} {f g : α → Except ε β} (hx : SameUnless P x y)
    (hf : ∀ a, SameUnless P (f a) (g a)) : SameUnless P (x >>= f) (y >>= g) := by
  rcases hx with ⟨e, rfl, he⟩ | rfl
  · exact .inl ⟨e, rfl, he⟩
  · cases x with
    | error e => exact .inr rfl
    | ok a => exact hf a

theorem map {x y : Except ε α} (f : α → β) (hx : SameUnless P x y) : SameUnless P (f <$> x) (f <$> y) := by
  rcases hx with ⟨e, rfl, he⟩ | rfl
  · exact .inl ⟨e, rfl, he⟩
  · exact .inr rfl

theorem mapM {f g : α → Except ε β} :
    ∀ {l : List α}, (∀ a ∈ l, SameUnless P (f a) (g a)) → SameUnless P (l.mapM f) (l.mapM g)
  | [], _ => refl _
  | a :: l, h => by
    obtain ⟨ha, hl⟩ := List.forall_mem_cons.1 h
    rw [List.mapM_cons, List.mapM_cons]
    exact ha.bind fun b => (mapM hl).bind fun bs => refl _

end SameUnless

/-! ## Runs -/

/-- Started in states that `R` relates, two computations give the same answer and end in states that `R`
relates, except where the first one fails with an error in `P`. -/
def Agree (P : ε → Prop) (R : σ → σ → Prop) (x y : ExceptT ε (StateM σ) α) : Prop :=
  ∀ s t, R s t →
    (∃ e, (x.run s).1 = .error e ∧ P e) ∨ ((x.run s).1 = (y.run t).1 ∧ R (x.run s).2 (y.run t).2)

namespace Agree

variable {P : ε → Prop} {R : σ → σ → Prop} {x y : ExceptT ε (StateM σ) α}

theorem lift {x y : Except ε α} (h : SameUnless P x y) :
    Agree P R (liftM x : ExceptT ε (StateM σ) α) (liftM y) := by
  intro s t hst
  rw [run_lift, run_lift]
  rcases h with h | h
  · exact .inl h
  · exact .inr ⟨h, hst⟩

theorem pure (a : α) : Agree P R (pure a : ExceptT ε (StateM σ) α) (Pure.pure a) :=
  fun _ _ hst => .inr ⟨rfl, hst⟩

theorem bind {f g : α → ExceptT ε (StateM σ) β} (hx : Agree P R x y) (hf : ∀ a, Agree P R (f a) (g a)) :
    Agree P R (x >>= f) (y >>= g) := by
  intro s t hst
  have hfirst := hx s t hst
  rw [run_bind, run_bind]
  rcases hxs : x.run s with ⟨_ | a, s₁⟩ <;> rcases hyt : y.run t with ⟨_ | b, t₁⟩ <;>
    rw [hxs, hyt] at hfirst
  · rcases hfirst with ⟨e, he, hP⟩ | ⟨he, hR⟩
    · cases he; exact .inl ⟨_, rfl, hP⟩
    · cases he; exact .inr ⟨rfl, hR⟩
  · rcases hfirst with ⟨e, he, hP⟩ | ⟨he, -⟩
    · cases he; exact .inl ⟨_, rfl, hP⟩
    · cases he
  · rcases hfirst with ⟨e, he, -⟩ | ⟨he, -⟩ <;> cases he
  · rcases hfirst with ⟨e, he, -⟩ | ⟨he, hR⟩
    · cases he
    · cases he; exact hf a s₁ t₁ hR

theorem mapM {f g : α → ExceptT ε (StateM σ) β} :
    ∀ {l : List α}, (∀ a ∈ l, Agree P R (f a) (g a)) → Agree P R (l.mapM f) (l.mapM g)
  | [], _ => pure []
  | a :: l, h => by
    obtain ⟨ha, hl⟩ := List.forall_mem_cons.1 h
    rw [List.mapM_cons, List.mapM_cons]
    exact ha.bind fun b => (mapM hl).bind fun bs => pure (b :: bs)

/-- What the first computation answers, the second one answers too. -/
theorem run_eq_ok (h : Agree P R x y) {s t s' : σ} (hst : R s t) {a : α} (hx : x.run s = (.ok a, s')) :
    ∃ t', y.run t = (.ok a, t') ∧ R s' t' := by
  rcases h s t hst with ⟨e, he, -⟩ | ⟨heq, hR⟩
  · rw [hx] at he; cases he
  · rw [hx] at heq hR
    exact ⟨(y.run t).2, Prod.ext heq.symm rfl, hR⟩

/-- An error of the first computation is one in `P`, or one of the second computation. -/
theorem run_eq_error (h : Agree P R x y) {s t s' : σ} (hst : R s t) {e : ε}
    (hx : x.run s = (.error e, s')) : P e ∨ ∃ t', y.run t = (.error e, t') ∧ R s' t' := by
  rcases h s t hst with ⟨e', he, hP⟩ | ⟨heq, hR⟩
  · rw [hx] at he; cases he; exact .inl hP
  · rw [hx] at heq hR
    exact .inr ⟨(y.run t).2, Prod.ext heq.symm rfl, hR⟩

end Agree

/-- Every run of a computation, whatever it answers, ends in a state that `R` relates to the first one. -/
def Leads (R : σ → σ → Prop) (x : ExceptT ε (StateM σ) α) : Prop := ∀ s, R s (x.run s).2

namespace Leads

variable {R : σ → σ → Prop} {x : ExceptT ε (StateM σ) α}

theorem lift (hrefl : ∀ s, R s s) (x : Except ε α) : Leads R (liftM x : ExceptT ε (StateM σ) α) := by
  intro s
  rw [run_lift]
  exact hrefl s

theorem bind (htrans : ∀ s t u, R s t → R t u → R s u) {f : α → ExceptT ε (StateM σ) β}
    (hx : Leads R x) (hf : ∀ a, Leads R (f a)) : Leads R (x >>= f) := by
  intro s
  have hfirst := hx s
  rw [run_bind]
  rcases hxs : x.run s with ⟨_ | a, s₁⟩ <;> rw [hxs] at hfirst
  · exact hfirst
  · exact htrans _ _ _ hfirst (hf a s₁)

theorem mapM (hrefl : ∀ s, R s s) (htrans : ∀ s t u, R s t → R t u → R s u)
    {f : α → ExceptT ε (StateM σ) β} :
    ∀ {l : List α}, (∀ a ∈ l, Leads R (f a)) → Leads R (l.mapM f)
  | [], _ => hrefl
  | a :: l, h => by
    obtain ⟨ha, hl⟩ := List.forall_mem_cons.1 h
    rw [List.mapM_cons]
    exact ha.bind htrans fun b => (mapM hrefl htrans hl).bind htrans fun bs => hrefl

end Leads

end PageTemplate
