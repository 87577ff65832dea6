/-
Expressions written out, each operand that is put together from others in parentheses, and read back. The
symbols of an expression written like that are a phrase of the grammar, so no rule of binding is needed to
read them; and the words of the symbols are read as the symbols, however many blanks stand between them.
-/
import PageTemplate.Proofs.Expr.Recognition
import PageTemplate.Proofs.Expr.Spelling

namespace PageTemplate

open PageTemplate.Symbol (IsIdentifier Blanks Spelled Word)

namespace Expr

/-! ## Printed expressions -/

/-- The symbols of a literal or a name. An integer below zero is written behind a minus sign. -/
inductive Single : Expr → List Symbol → Prop
  | word {n : String} {v : Value} : (n, v) ∈ literalWords → Single (.literal v) [.name n]
  | str (t : String) : Single (.literal (.str t)) [.str t]
  | int {i : Int64} : 0 ≤ i → Single (.literal (.int i)) [.int i]
  | negative {i : Int64} : i < 0 → Single (.literal (.int i)) [.minus, .int (-i)]
  | name {n : String} : IsName n → (∀ v, (n, v) ∉ literalWords) → Single (.name n) [.name n]

mutual

/-- The symbols of an expression as an operand: in parentheses, if `not`, `and`, `or` or a comparison puts it
together. -/
inductive Operand : Expr → List Symbol → Prop
  | single {e : Expr} {s : List Symbol} : Single e s → Operand e s
  | attribute {base : Expr} {n : String} {s : List Symbol} :
      Operand base s → IsName n → Operand (.attribute base n) (s ++ [.dot, .name n])
  | length {e : Expr} {s : List Symbol} :
      Printed e s → Operand (.length e) (.name "len" :: .openParen :: (s ++ [.closeParen]))
  | parentheses {e : Expr} {s : List Symbol} :
      Printed e s → Operand e (.openParen :: (s ++ [.closeParen]))

/-- The symbols of an expression. -/
inductive Printed : Expr → List Symbol → Prop
  | operand {e : Expr} {s : List Symbol} : Operand e s → Printed e s
  | not {e : Expr} {s : List Symbol} : Operand e s → Printed (.not e) (.name "not" :: s)
  | and {left right : Expr} {s t : List Symbol} :
      Operand left s → Operand right t → Printed (.and left right) (s ++ .name "and" :: t)
  | or {left right : Expr} {s t : List Symbol} :
      Operand left s → Operand right t → Printed (.or left right) (s ++ .name "or" :: t)
  | compare {left right : Expr} {s t : List Symbol} (c : Comparison) :
      Operand left s → Operand right t → Printed (.compare left c right) (s ++ (c.symbols ++ t))

end

/-! ## What is printed is a phrase -/

theorem Single.derives {e : Expr} {s : List Symbol} (h : Single e s) : Derives .atom e s := by
  cases h with
  | word hn => exact .word hn
  | str t => exact .str t
  | int => exact .int _
  | @negative i _ =>
    have hphrase := Derives.negativeInt (-i)
    rwa [Int64.neg_neg] at hphrase
  | name hn hw => exact .name hn hw

theorem Derives.of_operand {e : Expr} {s : List Symbol} (h : Derives .operand e s) : Derives .negation e s :=
  .comparison (.operand h)

mutual

theorem Operand.derives : ∀ {e : Expr} {s : List Symbol}, Operand e s → Derives .operand e s
  | _, _, .single h => .atom h.derives
  | _, _, .attribute h hn => .dotted h.derives hn
  | _, _, .length h => .atom (.length h.derives)
  | _, _, .parentheses h => .atom (.parentheses h.derives)

theorem Printed.derives : ∀ {e : Expr} {s : List Symbol}, Printed e s → Derives .disjunction e s
  | _, _, .operand h => .conjunction (.negation h.derives.of_operand)
  | _, _, .not h => .conjunction (.negation (.not h.derives.of_operand))
  | _, _, .and hleft hright =>
    .conjunction (.and (.negation hleft.derives.of_operand) hright.derives.of_operand)
  | _, _, .or hleft hright =>
    .or (.conjunction (.negation hleft.derives.of_operand)) (.negation hright.derives.of_operand)
  | _, _, .compare c hleft hright =>
    .conjunction (.negation (.comparison (.compare c hleft.derives hright.derives)))

end

end Expr

/-! ## What can be printed -/

/-- The value has a word: it is null, a boolean, an integer whose negative is one too, or a string without
one of the quotes. -/
def Value.HasWord : Value → Prop
  | .null | .bool _ => True
  | .int i => i ≠ Int64.minValue
  | .str t => '\'' ∉ t.toList ∨ '"' ∉ t.toList
  | .float _ | .list _ | .map _ => False

namespace Expr

/-- Literals have words, and names and attributes can be told from all other words. -/
def Printable : Expr → Prop
  | .literal v => v.HasWord
  | .name n => IsIdentifier n.toList ∧ IsName n ∧ ∀ v, (n, v) ∉ literalWords
  | .attribute base n => base.Printable ∧ IsIdentifier n.toList ∧ IsName n
  | .length e | .not e => e.Printable
  | .and left right | .or left right | .compare left _ right => left.Printable ∧ right.Printable

/-! ## Words for what is printed -/

/-- Each of the symbols has a word. -/
def Wordy (symbols : List Symbol) : Prop := ∀ symbol ∈ symbols, ∃ word, symbol.Word word

theorem Wordy.cons {symbol : Symbol} {symbols : List Symbol} {word : Text} (h : symbol.Word word)
    (hs : Wordy symbols) : Wordy (symbol :: symbols) :=
  List.forall_mem_cons.2 ⟨⟨word, h⟩, hs⟩

theorem Wordy.append {s t : List Symbol} (hs : Wordy s) (ht : Wordy t) : Wordy (s ++ t) :=
  List.forall_mem_append.2 ⟨hs, ht⟩

theorem wordy_nil : Wordy [] := List.forall_mem_nil _

theorem word_of_mem : ∀ n ∈ ["and", "or", "not", "in", "len", "true", "false", "none"],
    Word (.name n) n.toList := by
  have hidentifier : ∀ n ∈ ["and", "or", "not", "in", "len", "true", "false", "none"],
      IsIdentifier n.toList := by
    decide +kernel
  exact fun n hn => .name (hidentifier n hn)

theorem wordy_comparison : ∀ c : Comparison, Wordy c.symbols
  | .relation r => .cons (.relation r) wordy_nil
  | .within => .cons (word_of_mem "in" (by simp)) wordy_nil
  | .notWithin => .cons (word_of_mem "not" (by simp)) (.cons (word_of_mem "in" (by simp)) wordy_nil)

/-- The negative of an integer is an integer, except for the least one. -/
theorem toInt_neg_of_ne_minValue {i : Int64} (h : i ≠ Int64.minValue) : (-i).toInt = -i.toInt := by
  have hne : i.toInt ≠ -2 ^ 63 := fun heq => h (Int64.toInt_inj.1 (heq.trans Int64.toInt_minValue.symm))
  have hle := Int64.le_toInt i
  have hlt := Int64.toInt_lt i
  rw [Int64.toInt_neg, Int.bmod_eq_of_le]
  · omega
  · omega

theorem neg_nonneg_of_ne_minValue {i : Int64} (h : i < 0) (hmin : i ≠ Int64.minValue) : 0 ≤ -i := by
  have hlt := Int64.lt_iff_toInt_lt.1 h
  rw [Int64.toInt_zero] at hlt
  rw [Int64.le_iff_toInt_le, Int64.toInt_zero, toInt_neg_of_ne_minValue hmin]
  omega

/-- A literal that has a word is printed. -/
theorem exists_single_of_hasWord {v : Value} (h : v.HasWord) : ∃ s, Single (.literal v) s ∧ Wordy s := by
  cases v with
  | null => exact ⟨_, .word (n := "none") (by simp [literalWords]), .cons (word_of_mem _ (by simp)) wordy_nil⟩
  | bool b =>
    cases b with
    | true =>
      exact ⟨_, .word (n := "true") (by simp [literalWords]), .cons (word_of_mem _ (by simp)) wordy_nil⟩
    | false =>
      exact ⟨_, .word (n := "false") (by simp [literalWords]), .cons (word_of_mem _ (by simp)) wordy_nil⟩
  | int i =>
    by_cases hi : 0 ≤ i
    · exact ⟨_, .int hi, .cons (.int hi) wordy_nil⟩
    · have hneg : i < 0 := Int64.not_le.1 hi
      exact ⟨_, .negative hneg, .cons .minus (.cons (.int (neg_nonneg_of_ne_minValue hneg h)) wordy_nil)⟩
  | str t =>
    rcases h with h | h
    · exact ⟨_, .str t, .cons (.str (.inl rfl) h) wordy_nil⟩
    · exact ⟨_, .str t, .cons (.str (.inr rfl) h) wordy_nil⟩
  | float | list | map => exact h.elim

theorem Wordy.parentheses {s : List Symbol} (h : Wordy s) : Wordy (.openParen :: (s ++ [.closeParen])) :=
  .cons .openParen (h.append (.cons .closeParen wordy_nil))

/-- What is printable is printed, with a word for each symbol. -/
theorem Printable.exists_printed : ∀ {e : Expr}, e.Printable → ∃ s, Operand e s ∧ Wordy s
  | .literal v, h => by
    obtain ⟨s, hs, hwordy⟩ := exists_single_of_hasWord h
    exact ⟨s, .single hs, hwordy⟩
  | .name n, ⟨hn, hname, hw⟩ => ⟨_, .single (.name hname hw), .cons (.name hn) wordy_nil⟩
  | .attribute base n, ⟨hbase, hn, hname⟩ => by
    obtain ⟨s, hs, hwordy⟩ := exists_printed hbase
    exact ⟨_, .attribute hs hname, hwordy.append (.cons .dot (.cons (.name hn) wordy_nil))⟩
  | .length e, h => by
    obtain ⟨s, hs, hwordy⟩ := exists_printed (e := e) h
    exact ⟨_, .length (.operand hs), .cons (word_of_mem "len" (by simp)) hwordy.parentheses⟩
  | .not e, h => by
    obtain ⟨s, hs, hwordy⟩ := exists_printed (e := e) h
    exact ⟨_, .parentheses (.not hs), (Wordy.cons (word_of_mem "not" (by simp)) hwordy).parentheses⟩
  | .and left right, ⟨hleft, hright⟩ => by
    obtain ⟨s, hs, hwordy⟩ := exists_printed hleft
    obtain ⟨t, ht, hwordy'⟩ := exists_printed hright
    exact ⟨_, .parentheses (.and hs ht),
      (hwordy.append (.cons (word_of_mem "and" (by simp)) hwordy')).parentheses⟩
  | .or left right, ⟨hleft, hright⟩ => by
    obtain ⟨s, hs, hwordy⟩ := exists_printed hleft
    obtain ⟨t, ht, hwordy'⟩ := exists_printed hright
    exact ⟨_, .parentheses (.or hs ht),
      (hwordy.append (.cons (word_of_mem "or" (by simp)) hwordy')).parentheses⟩
  | .compare left c right, ⟨hleft, hright⟩ => by
    obtain ⟨s, hs, hwordy⟩ := exists_printed hleft
    obtain ⟨t, ht, hwordy'⟩ := exists_printed hright
    exact ⟨_, .parentheses (.compare c hs ht),
      (hwordy.append ((wordy_comparison c).append hwordy')).parentheses⟩

/-- A space in front of every word. -/
theorem Wordy.exists_parts : ∀ {symbols : List Symbol}, Wordy symbols → ∃ parts : List (Text × Text),
    List.Forall₂ (fun symbol part => Blanks part.1 ∧ part.1 ≠ [] ∧ Word symbol part.2) symbols parts
  | [], _ => ⟨[], .nil⟩
  | _ :: _, h => by
    obtain ⟨⟨word, hword⟩, hrest⟩ := List.forall_mem_cons.1 h
    obtain ⟨parts, hparts⟩ := exists_parts hrest
    have hspace : Blanks [' '] := by decide
    exact ⟨([' '], word) :: parts, .cons ⟨hspace, List.cons_ne_nil _ _, hword⟩ hparts⟩

theorem Wordy.exists_spelled {symbols : List Symbol} (h : Wordy symbols) : ∃ text, Spelled symbols text := by
  obtain ⟨parts, hparts⟩ := h.exists_parts
  exact ⟨_, Symbol.spelled_of_gaps hparts⟩

/-! ## Names -/

theorem Printable.operand_name {n : String} (h : (Expr.name n).Printable) : Operand (.name n) [.name n] :=
  .single (.name h.2.1 h.2.2)

theorem spelled_name {n : String} {rest : Text} {symbols : List Symbol} (h : IsIdentifier n.toList)
    (hends : (Symbol.name n).Ends rest) (hrest : Spelled symbols rest) :
    Spelled (.name n :: symbols) (n.toList ++ rest) :=
  .cons (List.forall_mem_nil _) (.name h) hends hrest

theorem spelled_name_self {n : String} (h : IsIdentifier n.toList) : Spelled [.name n] n.toList := by
  have hspelled : Spelled [.name n] (n.toList ++ []) :=
    spelled_name h (by rintro c ⟨⟩) (.nil (List.forall_mem_nil _))
  rwa [List.append_nil] at hspelled

/-! ## Loop headers -/

/-- Names joined by commas, the word `in` and a spelled expression are the spelling of a loop header. -/
theorem spelled_header {symbols : List Symbol} {text gap : Text} (hgap : Blanks gap)
    (h : Spelled symbols text) :
    ∀ {first : String} {more : List String}, (∀ n ∈ first :: more, IsIdentifier n.toList) →
      Spelled (.name first :: moreSymbols more ++ .name "in" :: symbols)
        ((',' :: gap).intercalate ((first :: more).map String.toList) ++ (" in ".toList ++ text))
  | first, [], hnames => by
    have hin : Spelled (.name "in" :: symbols) ([' '] ++ ("in".toList ++ ([' '] ++ text))) :=
      .cons (by decide) (word_of_mem "in" (by simp)) (by rintro c ⟨⟩; decide +kernel)
        (h.behind_blanks (by decide))
    have hfirst : Word (.name first) first.toList := .name (hnames first List.mem_cons_self)
    have hheader := Spelled.cons (List.forall_mem_nil _) hfirst (by rintro c ⟨⟩; decide +kernel) hin
    simpa [moreSymbols] using hheader
  | first, next :: more, hnames => by
    -- the blanks behind the comma become those in front of the rest of the header
    obtain ⟨hfirst, hmore⟩ := List.forall_mem_cons.1 hnames
    have ih := spelled_header hgap h hmore
    have hcomma := Spelled.cons (List.forall_mem_nil _) Word.comma trivial (ih.behind_blanks hgap)
    have hheader := Spelled.cons (List.forall_mem_nil _) (.name hfirst) (by rintro c ⟨⟩; decide +kernel) hcomma
    simpa [moreSymbols, List.intercalate_cons_cons] using hheader

/-! ## Reading what was printed -/

theorem Printed.parse {e : Expr} {symbols : List Symbol} {text : Text} (h : Printed e symbols)
    (hspelled : Spelled symbols text) : Expr.parse text = .ok e := by
  rw [Expr.parse, hspelled.read, ok_bind]
  exact ofSymbols_eq_ok_iff.2 h.derives

theorem Printed.parseHeader {name : String} {e : Expr} {symbols : List Symbol} {text : Text} (h : Printed e symbols)
    (hspelled : Spelled symbols text) (hname : Symbol.IsIdentifier name.toList) (hname' : IsName name) :
    Expr.parseHeader (name.toList ++ (" in ".toList ++ text)) = .ok ⟨[name], e⟩ := by
  have hheader := spelled_header (List.forall_mem_nil _) hspelled (List.forall_mem_singleton.2 hname)
  rw [List.map_singleton, List.intercalate_singleton] at hheader
  rw [Expr.parseHeader, hheader.read, ok_bind]
  exact headerOfSymbols_eq_ok_iff.2 (.intro (List.forall_mem_singleton.2 hname') h.derives)

/-- Printing and reading are inverse. A printable expression has a printed text, and any printed text of it,
with any blanks between its words, is read as the expression again; behind names joined by commas and the
word `in`, it is read as the loop header of these names and the expression. -/
theorem parse_inverts_printing (e : Expr) (h : e.Printable) :
    (∃ symbols text, Printed e symbols ∧ Spelled symbols text) ∧
    ∀ symbols text, Printed e symbols → Spelled symbols text →
      parse text = .ok e ∧
      ∀ (targets : List String) (gap : Text), targets ≠ [] →
        (∀ n ∈ targets, IsIdentifier n.toList ∧ IsName n) → Blanks gap →
        parseHeader ((',' :: gap).intercalate (targets.map String.toList) ++ (" in ".toList ++ text)) =
          .ok ⟨targets, e⟩ := by
  refine ⟨?_, fun symbols text hprinted hspelled => ⟨?_, fun targets gap hne htargets hgap => ?_⟩⟩
  · obtain ⟨symbols, hprinted, hwordy⟩ := h.exists_printed
    obtain ⟨text, hspelled⟩ := hwordy.exists_spelled
    exact ⟨symbols, text, .operand hprinted, hspelled⟩
  · rw [parse, hspelled.read, ok_bind]
    exact ofSymbols_eq_ok_iff.2 hprinted.derives
  · obtain ⟨first, more, rfl⟩ := List.exists_cons_of_ne_nil hne
    have hheader := spelled_header hgap hspelled fun n hn => (htargets n hn).1
    rw [parseHeader, hheader.read, ok_bind]
    exact headerOfSymbols_eq_ok_iff.2 (.intro (fun n hn => (htargets n hn).2) hprinted.derives)

/-- A comparison with a number below zero, and a loop over it. -/
theorem parse_inverts_printing_of_comparison :
    let e : Expr := .compare (.name "n") (.relation .lt) (.literal (.int (-5)))
    let text := ['n', '<', ' ', '-', '\t', '5']
    e.Printable ∧ parse text = .ok e ∧
      parseHeader (['i', ',', ' ', 'j', ' ', 'i', 'n', ' '] ++ text) = .ok ⟨["i", "j"], e⟩ := by
  intro e text
  have hidentifier : ∀ n ∈ ["n", "i", "j"], IsIdentifier n.toList := by decide +kernel
  have hname : ∀ n ∈ ["n", "i", "j"], IsName n := by decide
  have hword : ∀ v, ("n", v) ∉ literalWords := by simp [literalWords]
  have hleast : Value.HasWord (.int (-5)) := show (-5 : Int64) ≠ Int64.minValue by decide
  have hprintable : e.Printable := ⟨⟨hidentifier _ (by simp), hname _ (by simp), hword⟩, hleast⟩
  have hprinted : Printed e [.name "n", .relation .lt, .minus, .int 5] :=
    .compare (.relation .lt) (.single (.name (hname _ (by simp)) hword)) (.single (.negative (by decide)))
  have hspelled : Spelled [.name "n", .relation .lt, .minus, .int 5] text := by
    have hn : Word (.name "n") ['n'] := .name (hidentifier "n" (by simp))
    have hfive : Word (.int 5) ['5'] := .int (i := 5) (by decide)
    have h₄ := @Spelled.cons _ _ ['\t'] _ _ (by decide) hfive (by decide) (.nil (List.forall_mem_nil _))
    have h₃ := @Spelled.cons _ _ [' '] _ _ (by decide) Word.minus (by decide) h₄
    have h₂ := @Spelled.cons _ _ [] _ _ (by decide) (Word.relation .lt) (by decide) h₃
    exact @Spelled.cons _ _ [] _ _ (by decide) hn (by decide +kernel) h₂
  obtain ⟨hparse, hheader⟩ := (parse_inverts_printing e hprintable).2 _ _ hprinted hspelled
  refine ⟨hprintable, hparse, hheader ["i", "j"] [' '] (by simp) (fun n hn => ?_) (by decide)⟩
  have hn : n ∈ ["n", "i", "j"] := List.mem_cons_of_mem _ hn
  exact ⟨hidentifier n hn, hname n hn⟩

end Expr

end PageTemplate
