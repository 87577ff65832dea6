/-
The grammar of expressions, as derivations: which symbols are written for which expression at each
level of binding. What the parser answers always has a derivation from the symbols it has read.
-/
import PageTemplate.Expr.Parse
import PageTemplate.Proofs.Outcome

namespace PageTemplate

/-! ## Derivations -/

/-- The symbols of a comparison. -/
def Comparison.symbols : Comparison → List Symbol
  | .relation r => [.relation r]
  | .within => [.name "in"]
  | .notWithin => [.name "not", .name "in"]

namespace Expr

/-- The levels of the grammar, the one that binds weakest first. -/
inductive Level where
  | disjunction
  | conjunction
  | negation
  | comparison
  | operand
  | atom

/-- The words that stand for a value. -/
def literalWords : List (String × Value) := [
  ("true", .bool true), ("True", .bool true), ("false", .bool false), ("False", .bool false),
  ("none", .null), ("None", .null), ("null", .null)]

/-- A word that can name a loop variable or an attribute. -/
def IsName (n : String) : Prop := n ∉ ["and", "or", "not", "in"]

instance (n : String) : Decidable (IsName n) := inferInstanceAs (Decidable (n ∉ ["and", "or", "not", "in"]))

/-- The symbols of an expression at a level. A name is never read in front of a parenthesis, so `len`
has a meaning of its own there only. -/
inductive Derives : Level → Expr → List Symbol → Prop
  | conjunction {e : Expr} {s : List Symbol} :
      Derives .conjunction e s → Derives .disjunction e s
  | or {left right : Expr} {s t : List Symbol} :
      Derives .disjunction left s → Derives .conjunction right t →
      Derives .disjunction (.or left right) (s ++ .name "or" :: t)
  | negation {e : Expr} {s : List Symbol} : Derives .negation e s → Derives .conjunction e s
  | and {left right : Expr} {s t : List Symbol} :
      Derives .conjunction left s → Derives .negation right t →
      Derives .conjunction (.and left right) (s ++ .name "and" :: t)
  | comparison {e : Expr} {s : List Symbol} : Derives .comparison e s → Derives .negation e s
  | not {e : Expr} {s : List Symbol} :
      Derives .negation e s → Derives .negation (.not e) (.name "not" :: s)
  | operand {e : Expr} {s : List Symbol} : Derives .operand e s → Derives .comparison e s
  | compare {left right : Expr} {s t : List Symbol} (c : Comparison) :
      Derives .operand left s → Derives .operand right t →
      Derives .comparison (.compare left c right) (s ++ (c.symbols ++ t))
  | atom {e : Expr} {s : List Symbol} : Derives .atom e s → Derives .operand e s
  | dotted {e : Expr} {n : String} {s : List Symbol} :
      Derives .operand e s → IsName n → Derives .operand (.attribute e n) (s ++ [.dot, .name n])
  | int (i : Int64) : Derives .atom (.literal (.int i)) [.int i]
  | float (x : Float) : Derives .atom (.literal (.float x)) [.float x]
  | negativeInt (i : Int64) : Derives .atom (.literal (.int (-i))) [.minus, .int i]
  | negativeFloat (x : Float) : Derives .atom (.literal (.float (-x))) [.minus, .float x]
  | str (t : String) : Derives .atom (.literal (.str t)) [.str t]
  | parentheses {e : Expr} {s : List Symbol} :
      Derives .disjunction e s → Derives .atom e (.openParen :: (s ++ [.closeParen]))
  | length {e : Expr} {s : List Symbol} :
      Derives .disjunction e s →
      Derives .atom (.length e) (.name "len" :: .openParen :: (s ++ [.closeParen]))
  | word {n : String} {v : Value} : (n, v) ∈ literalWords → Derives .atom (.literal v) [.name n]
  | name {n : String} :
      IsName n → (∀ v, (n, v) ∉ literalWords) → Derives .atom (.name n) [.name n]

/-- The symbols of the further names of a loop header. -/
def moreSymbols (names : List String) : List Symbol := names.flatMap fun n => [.comma, .name n]

/-- The symbols of a loop header. -/
inductive DerivesHeader : LoopHeader → List Symbol → Prop
  | intro {first : String} {more : List String} {source : Expr} {s : List Symbol} :
      (∀ n ∈ first :: more, IsName n) → Derives .disjunction source s →
      DerivesHeader ⟨first :: more, source⟩
        (.name first :: moreSymbols more ++ .name "in" :: s)

theorem isReserved_eq_false_iff {n : String} : isReserved n = false ↔ IsName n := by
  simp [isReserved, IsName, and_assoc]

theorem wordValue?_eq_some_iff {n : String} {v : Value} :
    wordValue? n = some v ↔ (n, v) ∈ literalWords := by
  unfold wordValue? literalWords
  split <;> simp_all [eq_comm]

theorem wordValue?_eq_none_iff {n : String} :
    wordValue? n = none ↔ ∀ v, (n, v) ∉ literalWords := by
  rw [Option.eq_none_iff_forall_ne_some]
  exact forall_congr' fun v => not_congr wordValue?_eq_some_iff

/-! ## What is read has a derivation -/

/-- A part of the parser reads phrases of a level. -/
def Sound (level : Level) (part : Part Expr) : Prop :=
  ∀ symbols e rest, part symbols = .ok (e, rest) → ∃ s, symbols = s ++ rest ∧ Derives level e s

theorem closing_eq_ok_iff {symbols rest : List Symbol} :
    closing symbols = .ok rest ↔ symbols = .closeParen :: rest := by
  unfold closing
  split <;> simp_all

theorem atom_sound {inner : Part Expr} (h : Sound .disjunction inner) : Sound .atom (atom inner) := by
  intro symbols e rest hp
  unfold Expr.atom at hp
  split at hp
  · cases hp; exact ⟨_, rfl, .int _⟩
  · cases hp; exact ⟨_, rfl, .float _⟩
  · cases hp; exact ⟨_, rfl, .str _⟩
  · cases hp; exact ⟨[.minus, _], rfl, .negativeInt _⟩
  · cases hp; exact ⟨[.minus, _], rfl, .negativeFloat _⟩
  · cases hp
  · obtain ⟨⟨e', after⟩, hinner, hp⟩ := bind_eq_ok.1 hp
    obtain ⟨rest', hclose, hp⟩ := bind_eq_ok.1 hp
    cases hp
    obtain ⟨s, rfl, hs⟩ := h _ _ _ hinner
    rw [closing_eq_ok_iff.1 hclose]
    exact ⟨_, by simp, .parentheses hs⟩
  · rename_i n _
    split at hp
    · rename_i hw
      cases hp
      exact ⟨_, rfl, .word (wordValue?_eq_some_iff.1 hw)⟩
    · obtain ⟨⟨e', after⟩, hinner, hp⟩ := bind_eq_ok.1 hp
      obtain ⟨rest', hclose, hp⟩ := bind_eq_ok.1 hp
      cases hp
      obtain ⟨s, rfl, hs⟩ := h _ _ _ hinner
      rw [closing_eq_ok_iff.1 hclose]
      exact ⟨_, by simp, .length hs⟩
    · rename_i hw
      split at hp
      · cases hp
      · rename_i hr
        cases hp
        rw [Bool.not_eq_true] at hr
        exact ⟨_, rfl, .name (isReserved_eq_false_iff.1 hr) (wordValue?_eq_none_iff.1 hw)⟩
  · cases hp
  · cases hp

theorem attributes_sound {symbols rest : List Symbol} {base e : Expr}
    (hp : attributes base symbols = .ok (e, rest)) {s : List Symbol} (hbase : Derives .operand base s) :
    ∃ t, symbols = t ++ rest ∧ Derives .operand e (s ++ t) := by
  fun_induction attributes base symbols generalizing s with
  | case1 | case3 | case4 => cases hp
  | case2 base n after hr ih =>
    rw [Bool.not_eq_true] at hr
    obtain ⟨t, rfl, ht⟩ := ih hp (.dotted hbase (isReserved_eq_false_iff.1 hr))
    refine ⟨.dot :: .name n :: t, rfl, ?_⟩
    rwa [List.append_assoc] at ht
  | case5 =>
    cases hp
    exact ⟨[], rfl, by rwa [List.append_nil]⟩

theorem operand_sound {inner : Part Expr} (h : Sound .disjunction inner) :
    Sound .operand (operand inner) := by
  intro symbols e rest hp
  obtain ⟨⟨base, after⟩, hatom, hattributes⟩ := bind_eq_ok.1 hp
  obtain ⟨s, rfl, hs⟩ := atom_sound h _ _ _ hatom
  obtain ⟨t, rfl, ht⟩ := attributes_sound hattributes (.atom hs)
  exact ⟨s ++ t, by rw [List.append_assoc], ht⟩

theorem comparison?_eq_some {symbols rest : List Symbol} {c : Comparison}
    (h : comparison? symbols = some (c, rest)) : symbols = c.symbols ++ rest := by
  unfold comparison? at h
  split at h <;> cases h <;> rfl

theorem comparison_sound {inner : Part Expr} (h : Sound .disjunction inner) :
    Sound .comparison (comparison inner) := by
  intro symbols e rest hp
  obtain ⟨⟨left, after⟩, hleft, hafter⟩ := bind_eq_ok.1 hp
  obtain ⟨s, rfl, hs⟩ := operand_sound h _ _ _ hleft
  dsimp only at hafter
  split at hafter
  · cases hafter; exact ⟨s, rfl, .operand hs⟩
  · rename_i c after' hc
    obtain ⟨⟨right, rest'⟩, hright, hend⟩ := bind_eq_ok.1 hafter
    cases hend
    obtain ⟨t, rfl, ht⟩ := operand_sound h _ _ _ hright
    rw [comparison?_eq_some hc]
    exact ⟨_, by simp, .compare c hs ht⟩

theorem negation_sound {inner : Part Expr} (h : Sound .disjunction inner) :
    Sound .negation (negation inner) := by
  intro symbols e rest hp
  fun_induction negation inner symbols generalizing e with
  | case1 after ih =>
    obtain ⟨⟨e', rest'⟩, hneg, hp⟩ := map_eq_ok.1 hp
    cases hp
    obtain ⟨s, rfl, hs⟩ := ih _ hneg
    exact ⟨_, rfl, .not hs⟩
  | case2 symbols _ =>
    obtain ⟨s, rfl, hs⟩ := comparison_sound h _ _ _ hp
    exact ⟨s, rfl, .comparison hs⟩

/-- A chain of phrases of the level `part` that are joined by `word`, as phrases of a level above. -/
structure Chained (word : String) (join : Expr → Expr → Expr) (upper lower : Level) : Prop where
  single : ∀ {e s}, Derives lower e s → Derives upper e s
  join : ∀ {left right s t}, Derives upper left s → Derives lower right t →
    Derives upper (join left right) (s ++ .name word :: t)

theorem chainRest_sound {word : String} {join : Expr → Expr → Expr} {upper lower : Level}
    (hc : Chained word join upper lower) {part : Part Expr} (h : Sound lower part) :
    ∀ (bound : Nat) {left e : Expr} {symbols rest s : List Symbol}, Derives upper left s →
      chainRest word join part bound left symbols = .ok (e, rest) →
      ∃ t, symbols = t ++ rest ∧ Derives upper e (s ++ t) := by
  intro bound left e symbols rest s hs hp
  fun_induction chainRest word join part bound left symbols generalizing s with
  | case1 bound left after ih =>
    obtain ⟨⟨right, after'⟩, hright, hmore⟩ := bind_eq_ok.1 hp
    obtain ⟨t, rfl, ht⟩ := h _ _ _ hright
    obtain ⟨u, rfl, hu⟩ := ih right _ (hc.join hs ht) hmore
    exact ⟨.name word :: (t ++ u), by simp, by simpa using hu⟩
  | case2 | case3 =>
    cases hp
    exact ⟨[], rfl, by rwa [List.append_nil]⟩

theorem chain_sound {word : String} {join : Expr → Expr → Expr} {upper lower : Level}
    (hc : Chained word join upper lower) {part : Part Expr} (h : Sound lower part) :
    Sound upper (chain word join part) := by
  intro symbols e rest hp
  obtain ⟨⟨left, after⟩, hleft, hmore⟩ := bind_eq_ok.1 hp
  obtain ⟨s, rfl, hs⟩ := h _ _ _ hleft
  obtain ⟨t, rfl, ht⟩ := chainRest_sound hc h _ (hc.single hs) hmore
  exact ⟨s ++ t, by rw [List.append_assoc], ht⟩

theorem chained_and : Chained "and" .and .conjunction .negation := ⟨.negation, .and⟩

theorem chained_or : Chained "or" .or .disjunction .conjunction := ⟨.conjunction, .or⟩

theorem expression_sound : ∀ depth : Nat, Sound .disjunction (expression depth)
  | 0 => fun symbols e rest hp => by cases hp
  | depth + 1 => fun symbols e rest hp => by
    rw [expression] at hp
    exact chain_sound chained_or
      (chain_sound chained_and (negation_sound (expression_sound depth))) _ _ _ hp

end Expr

end PageTemplate
