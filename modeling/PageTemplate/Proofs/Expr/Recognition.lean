/-
The parser accepts exactly its grammar: a list of symbols is read as an expression just when the
expression derives it, and the same holds for loop headers. Hence no list has two readings.

A phrase is read to its end because of what comes after it: each level stops at the symbols that
may follow its phrases. The levels that read on in a loop (chains and attributes) are left-recursive
in the grammar, so the invariant says what the loop has still to read after the phrase found so far.
-/
import PageTemplate.Proofs.Expr.Grammar

namespace PageTemplate.Expr

/-! ## What follows a phrase -/

/-- Symbols that may come after a phrase of a level. -/
inductive Follows : Level → List Symbol → Prop
  | nil : Follows .disjunction []
  | closeParen (rest : List Symbol) : Follows .disjunction (.closeParen :: rest)
  | disjunction {rest : List Symbol} : Follows .disjunction rest → Follows .conjunction rest
  | or (rest : List Symbol) : Follows .conjunction (.name "or" :: rest)
  | conjunction {rest : List Symbol} : Follows .conjunction rest → Follows .negation rest
  | and (rest : List Symbol) : Follows .negation (.name "and" :: rest)
  | negation {rest : List Symbol} : Follows .negation rest → Follows .comparison rest
  | comparison {rest : List Symbol} : Follows .comparison rest → Follows .operand rest
  | comparing (c : Comparison) (rest : List Symbol) : Follows .operand (c.symbols ++ rest)
  | operand {rest : List Symbol} : Follows .operand rest → Follows .atom rest
  | dot (rest : List Symbol) : Follows .atom (.dot :: rest)

namespace Follows

variable {level : Level} {rest : List Symbol}

theorem ne_or (h : Follows .disjunction rest) (after : List Symbol) :
    rest ≠ .name "or" :: after := by
  cases h <;> simp

theorem ne_and (h : Follows .conjunction rest) (after : List Symbol) :
    rest ≠ .name "and" :: after := by
  cases h with
  | disjunction h => cases h <;> simp
  | or => simp

theorem comparison?_eq_none (h : Follows level rest) (hoperand : level ≠ .operand)
    (hatom : level ≠ .atom) : comparison? rest = none := by
  induction h with
  | nil | closeParen | or | and => rfl
  | disjunction _ ih | conjunction _ ih | negation _ ih => exact ih (by simp) (by simp)
  | comparison | comparing => exact absurd rfl hoperand
  | operand | dot => exact absurd rfl hatom

theorem ne_dot (h : Follows level rest) (hatom : level ≠ .atom) (after : List Symbol) :
    rest ≠ .dot :: after := by
  induction h with
  | nil | closeParen | or | and => simp
  | disjunction _ ih | conjunction _ ih | negation _ ih | comparison _ ih => exact ih (by simp)
  | comparing c => cases c <;> simp [Comparison.symbols]
  | operand | dot => exact absurd rfl hatom

theorem ne_openParen (h : Follows level rest) (after : List Symbol) :
    rest ≠ .openParen :: after := by
  induction h with
  | nil | closeParen | or | and | dot => simp
  | disjunction _ ih | conjunction _ ih | negation _ ih | comparison _ ih | operand _ ih => exact ih
  | comparing c => cases c <;> simp [Comparison.symbols]

end Follows

/-! ## Each level reads its phrases -/

/-- The function that reads phrases of a level, inside at most `depth` more parentheses. -/
def Level.part (depth : Nat) : Level → Part Expr
  | .disjunction => expression (depth + 1)
  | .conjunction => Expr.chain "and" .and (Expr.negation (expression depth))
  | .negation => Expr.negation (expression depth)
  | .comparison => Expr.comparison (expression depth)
  | .operand => Expr.operand (expression depth)
  | .atom => Expr.atom (expression depth)

/-- What is left to do after a phrase of a level that may be the beginning of a longer one. -/
def Level.continued (depth : Nat) : Level → Expr → Part Expr
  | .disjunction, e => fun rest => chainRest "or" .or (Level.part depth .conjunction) rest.length e rest
  | .conjunction, e => fun rest => chainRest "and" .and (Level.part depth .negation) rest.length e rest
  | .operand, e => Expr.attributes e
  | _, e => fun rest => .ok (e, rest)

/-- The level whose followers may come after a phrase that can still grow. -/
def Level.growing : Level → Level
  | .disjunction => .conjunction
  | .conjunction => .negation
  | .operand => .atom
  | level => level

theorem chainRest_of_ne {word : String} {join : Expr → Expr → Expr} {part : Part Expr} {e : Expr}
    {rest : List Symbol} (h : ∀ after, rest ≠ .name word :: after) (bound : Nat) :
    chainRest word join part bound e rest = .ok (e, rest) := by
  unfold chainRest
  split
  · rename_i n after
    rw [if_neg]
    rintro rfl
    exact h after rfl
  · rfl

theorem attributes_of_ne {e : Expr} {rest : List Symbol} (h : ∀ after, rest ≠ .dot :: after) :
    attributes e rest = .ok (e, rest) := by
  unfold Expr.attributes
  split
  · exact absurd rfl (h _)
  · exact absurd rfl (h _)
  · exact absurd rfl (h _)
  · rfl

theorem attributes_dot {n : String} (hn : IsName n) (e : Expr) (rest : List Symbol) :
    attributes e (.dot :: .name n :: rest) = attributes (.attribute e n) rest := by
  rw [Expr.attributes, isReserved_eq_false_iff.2 hn]
  rfl

/-- In front of what follows its level, a phrase is complete. -/
theorem Follows.continued {level : Level} {rest : List Symbol} (h : Follows level rest)
    (depth : Nat) (e : Expr) : level.continued depth e rest = .ok (e, rest) := by
  cases level with
  | disjunction => exact chainRest_of_ne h.ne_or _
  | conjunction => exact chainRest_of_ne h.ne_and _
  | operand => exact attributes_of_ne (h.ne_dot (by simp))
  | negation | comparison | atom => rfl

theorem length_le_of_sound {level : Level} {part : Part Expr} (h : Sound level part)
    {symbols rest : List Symbol} {e : Expr} (hp : part symbols = .ok (e, rest)) :
    rest.length ≤ symbols.length := by
  obtain ⟨s, rfl, -⟩ := h _ _ _ hp
  rw [List.length_append]
  exact Nat.le_add_left _ _

/-- A bound that is as large as the number of symbols is as good as any larger one. -/
theorem chainRest_bound {word : String} {join : Expr → Expr → Expr} {level : Level}
    {part : Part Expr} (h : Sound level part) :
    ∀ (b : Nat) {b' : Nat} (left : Expr) {rest : List Symbol}, rest.length ≤ b → rest.length ≤ b' →
      chainRest word join part b left rest = chainRest word join part b' left rest := by
  intro b
  induction b with
  | zero =>
    intro b' left rest hb hb'
    obtain rfl := List.eq_nil_of_length_eq_zero (Nat.le_zero.1 hb)
    cases b' <;> rfl
  | succ b ih =>
    intro b' left rest hb hb'
    obtain _ | ⟨symbol, rest⟩ := rest
    · cases b' <;> rfl
    obtain _ | b' := b'
    · cases hb'
    cases symbol with
    | name n =>
      simp only [chainRest]
      by_cases hn : n = word
      · rw [if_pos hn, if_pos hn]
        cases hp : part rest with
        | error fault => rfl
        | ok result =>
          obtain ⟨right, after⟩ := result
          have hle := length_le_of_sound h hp
          rw [List.length_cons] at hb hb'
          have hb : after.length ≤ b := by omega
          have hb' : after.length ≤ b' := by omega
          exact ih _ hb hb'
      · rw [if_neg hn, if_neg hn]
    | _ => rfl

theorem part_sound (depth : Nat) : ∀ level : Level, Sound level (level.part depth)
  | .disjunction => expression_sound (depth + 1)
  | .conjunction => chain_sound chained_and (negation_sound (expression_sound depth))
  | .negation => negation_sound (expression_sound depth)
  | .comparison => comparison_sound (expression_sound depth)
  | .operand => operand_sound (expression_sound depth)
  | .atom => atom_sound (expression_sound depth)

theorem chain_single {word : String} {join : Expr → Expr → Expr} {part : Part Expr} {e : Expr}
    {symbols rest : List Symbol} (h : part symbols = .ok (e, rest)) :
    chain word join part symbols = chainRest word join part rest.length e rest := by
  unfold chain
  rw [h]
  rfl

/-- One more phrase of the chain is read, and joined to those before it. -/
theorem chainRest_join {word : String} {join : Expr → Expr → Expr} {level : Level}
    {part : Part Expr} (hpart : Sound level part) {left right : Expr} {symbols rest : List Symbol}
    (h : part symbols = .ok (right, rest)) :
    chainRest word join part (symbols.length + 1) left (.name word :: symbols) =
      chainRest word join part rest.length (join left right) rest := by
  simp only [chainRest, if_true, h, ok_bind]
  exact chainRest_bound hpart _ _ (length_le_of_sound hpart h) (Nat.le_refl _)

theorem comparison?_symbols (c : Comparison) (rest : List Symbol) :
    comparison? (c.symbols ++ rest) = some (c, rest) := by
  cases c <;> rfl

/-- A phrase that is no negation does not begin with `not`. -/
theorem Derives.ne_not {level : Level} {e : Expr} {s : List Symbol} (h : Derives level e s)
    (hlevel : level = .comparison ∨ level = .operand ∨ level = .atom) (rest after : List Symbol) :
    s ++ rest ≠ .name "not" :: after := by
  induction h generalizing rest after with
  | conjunction | or | negation | and | comparison | not => simp at hlevel
  | operand _ ih | atom _ ih => exact ih (by simp) _ _
  | compare _ _ _ ih => rw [List.append_assoc]; exact ih (by simp) _ _
  | dotted _ _ ih => rw [List.append_assoc]; exact ih (by simp) _ _
  | int | float | negativeInt | negativeFloat | str | parentheses | length => simp
  | word hw =>
    rintro heq
    cases heq
    simp [literalWords] at hw
  | name hn =>
    rintro heq
    cases heq
    simp [IsName] at hn

theorem negation_of_ne {inner : Part Expr} {symbols : List Symbol}
    (h : ∀ after, symbols ≠ .name "not" :: after) :
    negation inner symbols = comparison inner symbols := by
  unfold negation
  split
  · exact absurd rfl (h _)
  · rfl

/-- A name that is no word with a meaning of its own is read as a name. -/
theorem atom_name {inner : Part Expr} {n : String} {rest : List Symbol} (hn : IsName n)
    (hw : ∀ v, (n, v) ∉ literalWords) (hrest : ∀ after, rest ≠ .openParen :: after) :
    atom inner (.name n :: rest) = .ok (.name n, rest) := by
  simp only [atom, wordValue?_eq_none_iff.2 hw]
  split
  · rename_i heq; cases heq
  · exact absurd rfl (hrest _)
  · rw [if_neg (by rw [isReserved_eq_false_iff.2 hn]; simp)]

theorem atom_len (inner : Part Expr) (rest : List Symbol) :
    atom inner (.name "len" :: .openParen :: rest) = do
      let (e, rest) ← inner rest
      return (.length e, ← closing rest) := rfl

/-- An expression in front of a closing parenthesis, at a depth that leaves room for both. -/
theorem expression_closeParen {e : Expr} {s : List Symbol}
    (h : ∀ (depth : Nat) (rest : List Symbol), s.length ≤ depth + 1 → Follows .conjunction rest →
      Level.part depth .disjunction (s ++ rest) = Level.continued depth .disjunction e rest)
    {depth : Nat} (hs : s.length + 1 ≤ depth) (rest : List Symbol) :
    expression depth (s ++ .closeParen :: rest) = .ok (e, .closeParen :: rest) := by
  obtain _ | depth := depth
  · cases hs
  have hfollow : Follows .disjunction (.closeParen :: rest) := .closeParen rest
  exact (h depth _ (by omega) (.disjunction hfollow)).trans (hfollow.continued depth e)

/-- A phrase is read up to what its level has to look at next, whatever follows it that may. -/
theorem Derives.part {level : Level} {e : Expr} {s : List Symbol} (h : Derives level e s) :
    ∀ (depth : Nat) (rest : List Symbol), s.length ≤ depth + 1 → Follows level.growing rest →
      level.part depth (s ++ rest) = level.continued depth e rest := by
  induction h with
  | conjunction _ ih =>
    intro depth rest hs hrest
    exact chain_single ((ih depth rest hs (.conjunction hrest)).trans (hrest.continued depth _))
  | negation _ ih =>
    intro depth rest hs hrest
    exact chain_single ((ih depth rest hs hrest).trans (hrest.continued depth _))
  | @or left right s t _ _ ihs iht =>
    intro depth rest hs hrest
    rw [List.length_append, List.length_cons] at hs
    -- the left part stops in front of the `or`, and the loop goes on from there
    have hright := (iht depth rest (by omega) (.conjunction hrest)).trans (hrest.continued depth _)
    rw [List.append_assoc, List.cons_append]
    exact (ihs depth _ (by omega) (.or _)).trans (chainRest_join (part_sound depth .conjunction) hright)
  | @and left right s t _ _ ihs iht =>
    intro depth rest hs hrest
    rw [List.length_append, List.length_cons] at hs
    have hright := (iht depth rest (by omega) hrest).trans (hrest.continued depth _)
    rw [List.append_assoc, List.cons_append]
    exact (ihs depth _ (by omega) (.and _)).trans (chainRest_join (part_sound depth .negation) hright)
  | comparison hc ih =>
    intro depth rest hs hrest
    exact (negation_of_ne (hc.ne_not (.inl rfl) rest)).trans (ih depth rest hs (.negation hrest))
  | not _ ih =>
    intro depth rest hs hrest
    have := ih depth rest (Nat.le_of_succ_le hs) hrest
    simp only [Level.part, Level.continued] at this ⊢
    rw [List.cons_append, Expr.negation, this]
    rfl
  | operand _ ih =>
    intro depth rest hs hrest
    have hfollow : Follows .operand rest := .comparison hrest
    have hread := (ih depth rest hs (.operand hfollow)).trans (hfollow.continued depth _)
    have hrest : Follows .comparison rest := hrest
    -- nothing that follows a comparison can be taken for the sign of one
    have hnone := hrest.comparison?_eq_none (by simp) (by simp)
    simp only [Level.part, Level.continued] at hread ⊢
    unfold Expr.comparison
    rw [hread, ok_bind]
    simp only [hnone]
    rfl
  | @compare left right s t c _ _ ihs iht =>
    intro depth rest hs hrest
    rw [List.length_append, List.length_append] at hs
    have hfollow : Follows .operand rest := .comparison hrest
    have hleft := (ihs depth _ (by omega) (.operand (.comparing c (t ++ rest)))).trans
      ((Follows.comparing c (t ++ rest)).continued depth _)
    have hright := (iht depth rest (by omega) (.operand hfollow)).trans (hfollow.continued depth _)
    simp only [Level.part, Level.continued] at hleft hright ⊢
    rw [List.append_assoc, List.append_assoc]
    unfold Expr.comparison
    rw [hleft, ok_bind]
    simp only [comparison?_symbols, hright, ok_bind]
    rfl
  | atom _ ih =>
    intro depth rest hs hrest
    have hread := ih depth rest hs hrest
    simp only [Level.part, Level.continued] at hread ⊢
    unfold Expr.operand
    rw [hread, ok_bind]
  | dotted _ hn ih =>
    intro depth rest hs hrest
    rw [List.length_append] at hs
    rw [List.append_assoc]
    exact (ih depth _ (by omega) (.dot _)).trans (attributes_dot hn _ rest)
  | int | float | negativeInt | negativeFloat | str => intro depth rest hs hrest; rfl
  | parentheses _ ih =>
    intro depth rest hs hrest
    rw [List.length_cons, List.length_append, List.length_singleton] at hs
    have hinner := expression_closeParen ih (Nat.le_of_succ_le_succ hs) rest
    simp only [Level.part, Level.continued, List.cons_append, List.append_assoc, List.nil_append]
    rw [Expr.atom, hinner]
    rfl
  | length _ ih =>
    intro depth rest hs hrest
    rw [List.length_cons, List.length_cons, List.length_append, List.length_singleton] at hs
    have hinner := expression_closeParen ih (show _ + 1 ≤ depth by omega) rest
    simp only [Level.part, Level.continued, List.cons_append, List.append_assoc, List.nil_append]
    rw [atom_len, hinner]
    rfl
  | word hw =>
    intro depth rest hs hrest
    simp only [Level.part, Level.continued, List.cons_append, List.nil_append, Expr.atom,
      wordValue?_eq_some_iff.2 hw]
  | name hn hw =>
    intro depth rest hs hrest
    exact atom_name hn hw hrest.ne_openParen

/-! ## Whole lists of symbols -/

theorem Derives.length_pos {level : Level} {e : Expr} {s : List Symbol} (h : Derives level e s) :
    0 < s.length := by
  induction h with
  | conjunction _ ih | negation _ ih | comparison _ ih | operand _ ih | atom _ ih => exact ih
  | or | and | compare | dotted => rw [List.length_append]; omega
  | not | int | float | negativeInt | negativeFloat | str | parentheses | length | word | name =>
    exact Nat.succ_pos _

/-- Reading a whole list of symbols as an expression succeeds just when the expression derives it. -/
theorem ofSymbols_eq_ok_iff {symbols : List Symbol} {e : Expr} :
    ofSymbols symbols = .ok e ↔ Derives .disjunction e symbols := by
  constructor
  · intro h
    obtain ⟨⟨e', rest⟩, hread, hend⟩ := bind_eq_ok.1 h
    obtain ⟨s, rfl, hs⟩ := expression_sound _ _ _ _ hread
    cases rest with
    | nil => cases hend; rwa [List.append_nil]
    | cons => cases hend
  · intro h
    obtain ⟨depth, hdepth⟩ := Nat.exists_eq_succ_of_ne_zero (Nat.ne_of_gt h.length_pos)
    have hread :=
      (h.part depth [] (Nat.le_of_eq hdepth) (.disjunction .nil)).trans (Follows.nil.continued depth e)
    rw [List.append_nil] at hread
    unfold ofSymbols
    -- the bound on parentheses is the number of symbols, one less is enough inside the first level
    rw [hdepth]
    exact bind_eq_ok.2 ⟨_, hread, rfl⟩

theorem target_eq_ok_iff {symbols rest : List Symbol} {n : String} :
    target symbols = .ok (n, rest) ↔ symbols = .name n :: rest ∧ IsName n := by
  unfold target
  split
  · rename_i m rest'
    by_cases hm : isReserved m = true
    · rw [if_pos hm]
      constructor
      · rintro ⟨⟩
      · rintro ⟨heq, hn⟩
        cases heq
        rw [isReserved_eq_false_iff.2 hn] at hm
        cases hm
    · rw [if_neg hm]
      rw [Bool.not_eq_true, isReserved_eq_false_iff] at hm
      constructor
      · rintro ⟨⟩; exact ⟨rfl, hm⟩
      · rintro ⟨heq, -⟩; cases heq; rfl
  · simp_all
  · simp

theorem moreTargets_sound {symbols rest : List Symbol} {names : List String}
    (h : moreTargets symbols = .ok (names, rest)) :
    symbols = moreSymbols names ++ rest ∧ ∀ n ∈ names, IsName n := by
  fun_induction moreTargets symbols generalizing names with
  | case1 | case3 | case4 => cases h
  | case2 n after hr ih =>
    rw [Bool.not_eq_true, isReserved_eq_false_iff] at hr
    obtain ⟨⟨names', rest'⟩, hmore, heq⟩ := map_eq_ok.1 h
    cases heq
    obtain ⟨rfl, hnames⟩ := ih hmore
    exact ⟨rfl, List.forall_mem_cons.2 ⟨hr, hnames⟩⟩
  | case5 => cases h; exact ⟨rfl, List.forall_mem_nil _⟩

theorem moreTargets_moreSymbols (rest : List Symbol) :
    ∀ {names : List String}, (∀ n ∈ names, IsName n) →
      moreTargets (moreSymbols names ++ .name "in" :: rest) = .ok (names, .name "in" :: rest)
  | [], _ => rfl
  | n :: names, h => by
    obtain ⟨hn, hnames⟩ := List.forall_mem_cons.1 h
    have ih := moreTargets_moreSymbols rest hnames
    simp only [moreSymbols, List.flatMap_cons, List.cons_append, List.nil_append] at ih ⊢
    rw [moreTargets, isReserved_eq_false_iff.2 hn, ih]
    rfl

/-- Reading a whole list of symbols as a loop header succeeds just when the header derives it. -/
theorem headerOfSymbols_eq_ok_iff {symbols : List Symbol} {header : LoopHeader} :
    headerOfSymbols symbols = .ok header ↔ DerivesHeader header symbols := by
  constructor
  · intro h
    obtain ⟨⟨first, rest⟩, hfirst, hafter⟩ := bind_eq_ok.1 h
    obtain ⟨⟨more, rest'⟩, hmore, hin⟩ := bind_eq_ok.1 hafter
    obtain ⟨rfl, hname⟩ := target_eq_ok_iff.1 hfirst
    obtain ⟨rfl, hnames⟩ := moreTargets_sound hmore
    dsimp only at hin
    split at hin
    · obtain ⟨source, hsource, hheader⟩ := bind_eq_ok.1 hin
      cases hheader
      exact .intro (List.forall_mem_cons.2 ⟨hname, hnames⟩) (ofSymbols_eq_ok_iff.1 hsource)
    · cases hin
  · intro h
    cases h with
    | @intro first more source s hnames hsource =>
      obtain ⟨hname, hmore⟩ := List.forall_mem_cons.1 hnames
      have hread := ofSymbols_eq_ok_iff.2 hsource
      refine bind_eq_ok.2 ⟨_, target_eq_ok_iff.2 ⟨rfl, hname⟩, ?_⟩
      refine bind_eq_ok.2 ⟨(more, .name "in" :: s), moreTargets_moreSymbols s hmore, ?_⟩
      exact bind_eq_ok.2 ⟨source, hread, rfl⟩

/-- The parser accepts exactly its grammar, and no list of symbols has two readings: an expression or
a loop header is the answer for a list of symbols just when it derives the list, and for a text
just when it derives the symbols of the text. -/
theorem parse_recognises_grammar (symbols : List Symbol) :
    (∀ e, ofSymbols symbols = .ok e ↔ Derives .disjunction e symbols) ∧
    (∀ e e', Derives .disjunction e symbols → Derives .disjunction e' symbols → e = e') ∧
    (∀ header, headerOfSymbols symbols = .ok header ↔ DerivesHeader header symbols) ∧
    (∀ header header', DerivesHeader header symbols → DerivesHeader header' symbols →
      header = header') ∧
    (∀ text, Symbol.read text = .ok symbols →
      (∀ e, parse text = .ok e ↔ Derives .disjunction e symbols) ∧
      ∀ header, parseHeader text = .ok header ↔ DerivesHeader header symbols) := by
  refine ⟨fun e => ofSymbols_eq_ok_iff, fun e e' h h' => ?_, fun header => headerOfSymbols_eq_ok_iff,
    fun header header' h h' => ?_, fun text htext => ⟨fun e => ?_, fun header => ?_⟩⟩
  · exact Except.ok.inj ((ofSymbols_eq_ok_iff.2 h).symm.trans (ofSymbols_eq_ok_iff.2 h'))
  · exact Except.ok.inj ((headerOfSymbols_eq_ok_iff.2 h).symm.trans (headerOfSymbols_eq_ok_iff.2 h'))
  · rw [← ofSymbols_eq_ok_iff, parse, htext, ok_bind]
  · rw [← headerOfSymbols_eq_ok_iff, parseHeader, htext, ok_bind]

example : ofSymbols [.name "not", .name "a", .name "not", .name "in", .name "b", .name "or", .name "c"] =
    .ok (.or (.not (.compare (.name "a") .notWithin (.name "b"))) (.name "c")) := rfl

end PageTemplate.Expr
