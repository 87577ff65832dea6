/-
Equations for computations that can fail, and for those that work on a state too: what an answer or
a fault of a composed computation says about its parts.
-/
import Mathlib.Data.List.Forall2
import Mathlib.Tactic.Basic

namespace PageTemplate

variable {ε ε' α β σ : Type}

/-! ## Answers and faults -/

@[simp] theorem ok_bind (a : α) (f : α → Except ε β) : (Except.ok a >>= f) = f a := rfl

@[simp] theorem error_bind (e : ε) (f : α → Except ε β) : (Except.error e >>= f) = .error e := rfl

theorem bind_eq_ok {x : Except ε α} {f : α → Except ε β} {b : β} :
    (x >>= f) = .ok b ↔ ∃ a, x = .ok a ∧ f a = .ok b := by
  cases x <;> simp

theorem bind_eq_error {x : Except ε α} {f : α → Except ε β} {e : ε} :
    (x >>= f) = .error e ↔ x = .error e ∨ ∃ a, x = .ok a ∧ f a = .error e := by
  cases x <;> simp

@[simp] theorem map_ok (f : α → β) (a : α) : f <$> (Except.ok a : Except ε α) = .ok (f a) := rfl

@[simp] theorem map_error (f : α → β) (e : ε) : f <$> (Except.error e : Except ε α) = .error e := rfl

theorem map_eq_ok {f : α → β} {x : Except ε α} {b : β} :
    f <$> x = .ok b ↔ ∃ a, x = .ok a ∧ f a = b := by
  cases x <;> simp

@[simp] theorem map_eq_error {f : α → β} {x : Except ε α} {e : ε} :
    f <$> x = .error e ↔ x = .error e := by
  cases x <;> simp

theorem mapError_eq_ok {f : ε → ε'} {x : Except ε α} {a : α} :
    x.mapError f = .ok a ↔ x = .ok a := by
  cases x with
  | ok b => show (Except.ok b : Except ε' α) = .ok a ↔ _; simp
  | error e => show (Except.error (f e) : Except ε' α) = .ok a ↔ _; simp

theorem mapError_eq_error {f : ε → ε'} {x : Except ε α} {e' : ε'} :
    x.mapError f = .error e' ↔ ∃ e, x = .error e ∧ f e = e' := by
  cases x with
  | ok b => show (Except.ok b : Except ε' α) = .error e' ↔ _; simp
  | error e => show (Except.error (f e) : Except ε' α) = .error e' ↔ _; simp

/-- A fold that fails has a first step that fails. -/
theorem foldlM_eq_error {f : β → α → Except ε β} {e : ε} :
    ∀ {l : List α} {b : β}, l.foldlM f b = .error e →
      ∃ before a after b', l = before ++ a :: after ∧ before.foldlM f b = .ok b' ∧ f b' a = .error e
  | [], b, h => by cases h
  | a :: l, b, h => by
    rw [List.foldlM_cons, bind_eq_error] at h
    rcases h with h | ⟨b₁, h₁, h⟩
    · exact ⟨[], a, l, b, rfl, rfl, h⟩
    · obtain ⟨before, a', after, b', rfl, hbefore, ha'⟩ := foldlM_eq_error h
      refine ⟨a :: before, a', after, b', rfl, ?_, ha'⟩
      rw [List.foldlM_cons, h₁, ok_bind, hbefore]

/-- A repetition that fails has an item that fails. -/
theorem mapM_eq_error {f : α → Except ε β} {e : ε} :
    ∀ {l : List α}, l.mapM f = .error e → ∃ a ∈ l, f a = .error e
  | [], h => by cases h
  | a :: l, h => by
    rw [List.mapM_cons, bind_eq_error] at h
    rcases h with h | ⟨b, -, h⟩
    · exact ⟨a, List.mem_cons_self, h⟩
    · rcases bind_eq_error.1 h with h | ⟨bs, -, h⟩
      · obtain ⟨a', ha', hf⟩ := mapM_eq_error h
        exact ⟨a', List.mem_cons_of_mem _ ha', hf⟩
      · cases h

/-- A repetition whose items have answers or fail with one and the same error fails with it, if one of them
does. -/
theorem mapM_eq_error_of_mem {f : α → Except ε β} {e : ε} :
    ∀ {l : List α}, (∀ a ∈ l, f a = .error e ∨ ∃ b, f a = .ok b) → (∃ a ∈ l, f a = .error e) →
      l.mapM f = .error e
  | a :: l, h, hfails => by
    obtain ⟨ha, hl⟩ := List.forall_mem_cons.1 h
    rw [List.mapM_cons]
    rcases ha with ha | ⟨b, hb⟩
    · rw [ha, error_bind]
    · have hbehind : ∃ a' ∈ l, f a' = .error e := by
        obtain ⟨a', ha', hfails⟩ := hfails
        rcases List.mem_cons.1 ha' with rfl | ha'
        · rw [hb] at hfails
          cases hfails
        · exact ⟨a', ha', hfails⟩
      rw [hb, ok_bind, mapM_eq_error_of_mem hl hbehind, error_bind]

/-- A repetition that ends well has an answer for every item. -/
theorem mapM_eq_ok_iff {f : α → Except ε β} :
    ∀ {l : List α} {bs : List β}, l.mapM f = .ok bs ↔ List.Forall₂ (fun a b => f a = .ok b) l bs
  | [], bs => by
    rw [List.mapM_nil, List.forall₂_nil_left_iff]
    constructor
    · intro h; cases h; rfl
    · rintro rfl; rfl
  | a :: l, bs => by
    rw [List.mapM_cons, bind_eq_ok]
    constructor
    · rintro ⟨b, hb, h⟩
      obtain ⟨bs', hbs', heq⟩ := bind_eq_ok.1 h
      cases heq
      exact .cons hb (mapM_eq_ok_iff.1 hbs')
    · intro h
      cases h with
      | cons hb hbs => exact ⟨_, hb, bind_eq_ok.2 ⟨_, mapM_eq_ok_iff.2 hbs, rfl⟩⟩

/-- Every answer of a repetition is that of an item. -/
theorem exists_mem_of_mapM {f : α → Except ε β} {b : β} :
    ∀ {l : List α} {bs : List β}, List.Forall₂ (fun a b => f a = .ok b) l bs → b ∈ bs →
      ∃ a ∈ l, f a = .ok b
  | _, _, .cons hhead htail, h => by
    rcases List.mem_cons.1 h with rfl | h
    · exact ⟨_, List.mem_cons_self, hhead⟩
    · obtain ⟨a, ha, hf⟩ := exists_mem_of_mapM htail h
      exact ⟨a, List.mem_cons_of_mem _ ha, hf⟩

/-- Where two lists are related item by item, an item of the first one has one in the second. -/
theorem exists_right_of_forall₂ {R : α → β → Prop} {a : α} :
    ∀ {l : List α} {bs : List β}, List.Forall₂ R l bs → a ∈ l → ∃ b ∈ bs, R a b
  | _, _, .cons hhead htail, h => by
    rcases List.mem_cons.1 h with rfl | h
    · exact ⟨_, List.mem_cons_self, hhead⟩
    · obtain ⟨b, hb, hrel⟩ := exists_right_of_forall₂ htail h
      exact ⟨b, List.mem_cons_of_mem _ hb, hrel⟩

/-- What is related to two lists one behind the other falls into two parts like them. -/
theorem exists_append_of_forall₂ {R : α → β → Prop} :
    ∀ {l m : List α} {bs : List β}, List.Forall₂ R (l ++ m) bs →
      ∃ cs ds, bs = cs ++ ds ∧ List.Forall₂ R l cs ∧ List.Forall₂ R m ds
  | [], _, bs, h => ⟨[], bs, rfl, .nil, h⟩
  | _ :: _, _, _ :: _, .cons hhead htail => by
    obtain ⟨cs, ds, rfl, hl, hm⟩ := exists_append_of_forall₂ htail
    exact ⟨_ :: cs, ds, rfl, .cons hhead hl, hm⟩

/-- If every item has an answer with a property, so has the repetition. -/
theorem exists_mapM_of_forall {f : α → Except ε β} {R : α → β → Prop} :
    ∀ {l : List α}, (∀ a ∈ l, ∃ b, f a = .ok b ∧ R a b) → ∃ bs, l.mapM f = .ok bs ∧ List.Forall₂ R l bs
  | [], _ => ⟨[], rfl, .nil⟩
  | a :: l, h => by
    obtain ⟨⟨b, hb, hrel⟩, hl⟩ := List.forall_mem_cons.1 h
    obtain ⟨bs, hbs, hall⟩ := exists_mapM_of_forall hl
    exact ⟨b :: bs, mapM_eq_ok_iff.2 (.cons hb (mapM_eq_ok_iff.1 hbs)), .cons hrel hall⟩

theorem exists_mapM_eq_ok {f : α → Except ε β} {l : List α} (h : ∀ a ∈ l, ∃ b, f a = .ok b) :
    ∃ bs, l.mapM f = .ok bs := by
  obtain ⟨bs, hbs, -⟩ := exists_mapM_of_forall fun a ha =>
    let ⟨b, hb⟩ := h a ha
    (⟨b, hb, trivial⟩ : ∃ b, f a = .ok b ∧ True)
  exact ⟨bs, hbs⟩

/-- A repetition depends on what is done with its items only. -/
theorem mapM_congr {m : Type → Type} [Monad m] [LawfulMonad m] {f g : α → m β} :
    ∀ {l : List α}, (∀ a ∈ l, f a = g a) → l.mapM f = l.mapM g
  | [], _ => rfl
  | a :: l, h => by
    obtain ⟨ha, hl⟩ := List.forall_mem_cons.1 h
    rw [List.mapM_cons, List.mapM_cons, ha, mapM_congr hl]

/-! ## Computations on a state -/

/-- What follows an answer depends on what is done with this answer only. -/
theorem lift_bind_congr {x : Except ε α} {f g : α → ExceptT ε (StateM σ) β}
    (h : ∀ a, x = .ok a → f a = g a) :
    ((liftM x : ExceptT ε (StateM σ) α) >>= f) = ((liftM x : ExceptT ε (StateM σ) α) >>= g) := by
  cases x with
  | ok a => exact h a rfl
  | error => rfl

theorem run_lift (x : Except ε α) (s : σ) : (liftM x : ExceptT ε (StateM σ) α).run s = (x, s) := by
  cases x <;> rfl

theorem run_bind (x : ExceptT ε (StateM σ) α) (f : α → ExceptT ε (StateM σ) β) (s : σ) :
    (x >>= f).run s =
      match x.run s with
      | (.ok a, s₁) => (f a).run s₁
      | (.error e, s₁) => (.error e, s₁) := by
  show (match x.run s with | (r, s₁) => ExceptT.bindCont f r s₁) = _
  rcases x.run s with ⟨_ | _, _⟩ <;> rfl

theorem run_bind_eq_ok {x : ExceptT ε (StateM σ) α} {f : α → ExceptT ε (StateM σ) β} {s s' : σ} {b : β}
    (h : (x >>= f).run s = (.ok b, s')) :
    ∃ a s₁, x.run s = (.ok a, s₁) ∧ (f a).run s₁ = (.ok b, s') := by
  rw [run_bind] at h
  rcases hx : x.run s with ⟨_ | a, s₁⟩ <;> rw [hx] at h
  · cases h
  · exact ⟨a, s₁, rfl, h⟩

theorem run_bind_eq_error {x : ExceptT ε (StateM σ) α} {f : α → ExceptT ε (StateM σ) β} {s s' : σ} {e : ε}
    (h : (x >>= f).run s = (.error e, s')) :
    x.run s = (.error e, s') ∨ ∃ a s₁, x.run s = (.ok a, s₁) ∧ (f a).run s₁ = (.error e, s') := by
  rw [run_bind] at h
  rcases hx : x.run s with ⟨_ | a, s₁⟩ <;> rw [hx] at h
  · cases h; exact .inl rfl
  · exact .inr ⟨a, s₁, rfl, h⟩

theorem run_lift_eq_iff {x result : Except ε α} {s s' : σ} :
    (liftM x : ExceptT ε (StateM σ) α).run s = (result, s') ↔ x = result ∧ s = s' := by
  rw [run_lift, Prod.mk.injEq]

/-- What has no effect on the state hands it on to what follows its answer. -/
theorem run_lift_bind_eq_ok {x : Except ε α} {f : α → ExceptT ε (StateM σ) β} {s s' : σ} {b : β}
    (h : ((liftM x : ExceptT ε (StateM σ) α) >>= f).run s = (.ok b, s')) :
    ∃ a, x = .ok a ∧ (f a).run s = (.ok b, s') := by
  obtain ⟨a, s₁, hrun, h⟩ := run_bind_eq_ok h
  obtain ⟨hx, rfl⟩ := run_lift_eq_iff.1 hrun
  exact ⟨a, hx, h⟩

theorem run_lift_bind_eq_error {x : Except ε α} {f : α → ExceptT ε (StateM σ) β} {s s' : σ} {e : ε}
    (h : ((liftM x : ExceptT ε (StateM σ) α) >>= f).run s = (.error e, s')) :
    (x = .error e ∧ s = s') ∨ ∃ a, x = .ok a ∧ (f a).run s = (.error e, s') := by
  rcases run_bind_eq_error h with hrun | ⟨a, s₁, hrun, h⟩
  · exact .inl (run_lift_eq_iff.1 hrun)
  · obtain ⟨hx, rfl⟩ := run_lift_eq_iff.1 hrun
    exact .inr ⟨a, hx, h⟩

/-- In a repetition that ends well every item has been run and ended well. -/
theorem run_mapM_eq_ok {f : α → ExceptT ε (StateM σ) β} :
    ∀ {l : List α} {s s' : σ} {bs : List β}, (l.mapM f).run s = (.ok bs, s') →
      ∀ a ∈ l, ∃ s₁ b s₂, (f a).run s₁ = (.ok b, s₂)
  | [], _, _, _, _ => List.forall_mem_nil _
  | a :: l, s, s', bs, h => by
    rw [List.mapM_cons] at h
    obtain ⟨b, s₁, hb, h⟩ := run_bind_eq_ok h
    obtain ⟨bs', s₂, hbs, -⟩ := run_bind_eq_ok h
    exact List.forall_mem_cons.2 ⟨⟨s, b, s₁, hb⟩, run_mapM_eq_ok hbs⟩

end PageTemplate
