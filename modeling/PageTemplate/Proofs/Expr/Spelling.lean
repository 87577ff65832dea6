/-
How symbols are written. The reader takes the longest symbol at each place, so what stands behind a symbol
matters only where the symbol could go on: behind a name, a number, or a sign that another one begins with.
Main results: a text that is spelled from words, with spaces and tabs between them and nothing behind a word
that would continue it, is read as its symbols; and what is read of a text stays the same with more text
behind it, if that does not continue the last symbol.
-/
import Mathlib.Data.List.TakeWhile
import Mathlib.Tactic.Common
import PageTemplate.Expr.Symbol
import PageTemplate.Proofs.Outcome
import PageTemplate.Text.Blank

namespace PageTemplate

variable {c : Char} {text after rest : Text}

/-- A run of characters ends where it did before, if the text behind does not continue it. -/
theorem Text.span_append (p : Char → Bool) (rest : Text) : ∀ text : Text,
    (text.dropWhile p = [] → ∀ d ∈ rest.head?, p d = false) →
      (text ++ rest).takeWhile p = text.takeWhile p ∧ (text ++ rest).dropWhile p = text.dropWhile p ++ rest
  | [], h => by
    cases rest with
    | nil => exact ⟨rfl, rfl⟩
    | cons d rest =>
      have hd : p d = false := h rfl d rfl
      simp [hd]
  | d :: text, h => by
    by_cases hd : p d = true
    · rw [List.dropWhile_cons_of_pos hd] at h
      obtain ⟨htake, hdrop⟩ := span_append p rest text h
      simp [hd, htake, hdrop]
    · simp [hd]

namespace Symbol

/-! ## Ends of symbols -/

/-- The text does not continue the symbol in front of it. -/
def Ends : Symbol → Text → Prop
  | .name _, rest => ∀ c ∈ rest.head?, continuesName c = false
  | .int _, rest | .float _, rest => ∀ c ∈ rest.head?, continuesNumber c = false
  | .relation .lt, rest | .relation .gt, rest => rest.head? ≠ some '='
  | _, _ => True

-- what quantifies over the characters of a text is decided along the text, never by trying all characters
instance : ∀ (symbol : Symbol) (rest : Text), Decidable (symbol.Ends rest)
  | .name _, rest | .int _, rest | .float _, rest => rest.head?.decidableForallMem
  | .relation .lt, rest | .relation .gt, rest => inferInstanceAs (Decidable (rest.head? ≠ some '='))
  | .relation .eq, _ | .relation .ne, _ | .relation .le, _ | .relation .ge, _ => .isTrue trivial
  | .str _, _ | .openParen, _ | .closeParen, _ | .dot, _ | .comma, _ | .minus, _ => .isTrue trivial

/-- The text continues no symbol in front of it. -/
def Closed (rest : Text) : Prop :=
  ∀ c ∈ rest.head?, continuesName c = false ∧ continuesNumber c = false ∧ c ≠ '='

instance (rest : Text) : Decidable (Closed rest) := rest.head?.decidableForallMem

theorem Closed.ends (h : Closed rest) : ∀ symbol : Symbol, symbol.Ends rest
  | .name _ => fun c hc => (h c hc).1
  | .int _ | .float _ => fun c hc => (h c hc).2.1
  | .relation .lt | .relation .gt => fun heq => (h '=' heq).2.2 rfl
  | .relation .eq | .relation .ne | .relation .le | .relation .ge => trivial
  | .str _ | .openParen | .closeParen | .dot | .comma | .minus => trivial

/-- The characters that begin a blank, a bracket, a sign or a mark. -/
def marks : List Char := [' ', '\t', '(', ')', '.', ',', '-', '=', '!', '<', '>']

/-- A character without a meaning of its own begins a string, a number or a name. -/
theorem next_of_not_mem_marks (h : c ∉ marks) (text : Text) :
    next c text =
      if c = '\'' ∨ c = '"' then
        match text.dropWhile (· ≠ c) with
        | [] => .error .unterminatedString
        | _ :: rest => .ok (some (.str (String.ofList (text.takeWhile (· ≠ c)))), rest)
      else if c.isDigit then do
        let symbol ← number (c :: text.takeWhile continuesNumber)
        return (some symbol, text.dropWhile continuesNumber)
      else if startsName c then
        .ok (some (.name (String.ofList (c :: text.takeWhile continuesName))), text.dropWhile continuesName)
      else .error (.unexpectedChar c) := by
  unfold next
  split
  case h_12 => rfl
  all_goals exact absurd (by decide) h

/-- The number of a run of digits and points ends where the run does. -/
theorem number_ends {run : Text} {symbol : Symbol} (h : number run = .ok symbol) (rest : Text) :
    symbol.Ends rest ↔ ∀ c ∈ rest.head?, continuesNumber c = false := by
  unfold number at h
  split at h
  · split at h
    · cases h; rfl
    · cases h
  · dsimp only at h
    split at h
    · cases h; rfl
    · cases h

/-- A blank, a bracket, a sign or a mark is the same with more text behind it. -/
theorem next_append_of_mem_marks (hmark : c ∈ marks) {symbol : Option Symbol}
    (h : next c text = .ok (symbol, after)) (hends : after = [] → ∀ s ∈ symbol, Ends s rest) :
    next c (text ++ rest) = .ok (symbol, after ++ rest) := by
  simp only [marks, List.mem_cons, List.not_mem_nil, or_false] at hmark
  rcases hmark with rfl | rfl | rfl | rfl | rfl | rfl | rfl | rfl | rfl | rfl | rfl
  all_goals
    simp only [next] at h ⊢
    try (cases h; rfl)
  -- what is left are the signs of two characters, and those of one that such a sign begins with
  all_goals
    split at h
    · cases h; rfl
  · cases h
  · cases h
  all_goals
    rename_i hsingle
    cases h
    cases text with
    | nil =>
      have hend : rest.head? ≠ some '=' := hends rfl _ rfl
      cases rest with
      | nil => rfl
      | cons d rest =>
        rw [List.nil_append]
        split
        · rename_i heq
          cases heq
          exact absurd rfl hend
        · rfl
    | cons d text =>
      rw [List.cons_append]
      split
      · rename_i heq
        cases heq
        exact absurd rfl (hsingle text)
      · rfl

/-- A symbol that ends inside a text, or in front of the text behind it, is the same with that text. -/
theorem next_append {symbol : Option Symbol} (h : next c text = .ok (symbol, after))
    (hends : after = [] → ∀ s ∈ symbol, Ends s rest) :
    next c (text ++ rest) = .ok (symbol, after ++ rest) := by
  by_cases hmark : c ∈ marks
  · exact next_append_of_mem_marks hmark h hends
  rw [next_of_not_mem_marks hmark] at h ⊢
  by_cases hquote : c = '\'' ∨ c = '"'
  · rw [if_pos hquote] at h ⊢
    split at h
    · cases h
    · rename_i d more hdrop
      cases h
      -- the closing quote is in the text, so the run in front of it does not reach its end
      have hspan := Text.span_append (· ≠ c) rest text fun hnil => by
        rw [hdrop] at hnil
        cases hnil
      rw [hspan.1, hspan.2, hdrop]
      rfl
  rw [if_neg hquote] at h ⊢
  by_cases hdigit : c.isDigit = true
  · rw [if_pos hdigit] at h ⊢
    obtain ⟨s, hs, heq⟩ := bind_eq_ok.1 h
    cases heq
    have hspan := Text.span_append continuesNumber rest text fun hnil => (number_ends hs rest).1 (hends hnil s rfl)
    rw [hspan.1, hspan.2, hs]
    rfl
  rw [if_neg hdigit] at h ⊢
  by_cases hname : startsName c = true
  · rw [if_pos hname] at h ⊢
    cases h
    have hspan := Text.span_append continuesName rest text fun hnil => hends hnil _ rfl
    rw [hspan.1, hspan.2]
  · rw [if_neg hname] at h
    cases h

/-! ## Reading on -/

theorem read_cons {symbol : Option Symbol} (h : next c text = .ok (symbol, after)) :
    read (c :: text) = (symbol.toList ++ ·) <$> read after := by
  rw [read]
  split
  · rename_i heq
    rw [h] at heq
    cases heq
  · rename_i heq
    rw [h] at heq
    cases heq
    rfl

/-- What has been read stays the same with more text behind it that does not continue the last symbol. -/
theorem read_append {symbols : List Symbol} (h : read text = .ok symbols) (hrest : Closed rest) :
    read (text ++ rest) = (symbols ++ ·) <$> read rest := by
  fun_induction read text generalizing symbols with
  | case1 =>
    cases h
    cases hread : read rest <;> simp [hread]
  | case2 => cases h
  | case3 c text symbol after hnext ih =>
    obtain ⟨more, hmore, rfl⟩ := map_eq_ok.1 h
    -- only the last symbol can meet the text behind, and that continues no symbol
    rw [List.cons_append, read_cons (next_append hnext fun _ s _ => hrest.ends s), ih hmore]
    cases read rest <;> simp

/-! ## Words -/

/-- Spaces and tabs. -/
def Blanks (t : Text) : Prop := ∀ c ∈ t, c = ' ' ∨ c = '\t'

instance (t : Text) : Decidable (Blanks t) := List.decidableBAll _ t

/-- The text can be written for a name. -/
structure IsIdentifier (t : Text) : Prop where
  nonempty : t ≠ []
  start : ∀ c ∈ t.head?, startsName c = true
  others : ∀ c ∈ t.tail, continuesName c = true

instance (t : Text) : Decidable (IsIdentifier t) :=
  decidable_of_iff (t ≠ [] ∧ t.head?.all startsName = true ∧ t.tail.all continuesName = true) <| by
    rw [Option.all_eq_true, List.all_eq_true]
    exact ⟨fun h => ⟨h.1, h.2.1, h.2.2⟩, fun h => ⟨h.nonempty, h.start, h.others⟩⟩

/-- The words that a symbol is written by: a name by itself, a number by its digits, a string in either quote
that it does not have inside. -/
inductive Word : Symbol → Text → Prop
  | name {n : String} : IsIdentifier n.toList → Word (.name n) n.toList
  | int {i : Int64} : 0 ≤ i → Word (.int i) (Value.int i).text
  | str {t : String} {quote : Char} : quote = '\'' ∨ quote = '"' → quote ∉ t.toList →
      Word (.str t) (quote :: t.toList ++ [quote])
  | relation (r : Relation) : Word (.relation r) r.sign.toList
  | openParen : Word .openParen ['(']
  | closeParen : Word .closeParen [')']
  | dot : Word .dot ['.']
  | comma : Word .comma [',']
  | minus : Word .minus ['-']

/-- Symbols written one behind the other: blanks in front of each word and at the end, and behind each word
nothing that continues it. -/
inductive Spelled : List Symbol → Text → Prop
  | nil {gap : Text} : Blanks gap → Spelled [] gap
  | cons {symbol : Symbol} {symbols : List Symbol} {gap word rest : Text} :
      Blanks gap → symbol.Word word → symbol.Ends rest → Spelled symbols rest →
      Spelled (symbol :: symbols) (gap ++ (word ++ rest))

/-! ## Characters of words -/

/-- White space continues no name. -/
theorem not_isBlank_of_continuesName (h : continuesName c = true) : Text.isBlank c = false := by
  have hblanks : ∀ range ∈ Text.blankRanges, ∀ k < range.2 - range.1 + 1,
      continuesName (Char.ofNat (range.1 + k)) = false := by
    decide +kernel
  rw [Bool.eq_false_iff]
  intro hblank
  obtain ⟨range, hrange, hin⟩ := List.any_eq_true.1 hblank
  simp only [Bool.and_eq_true, decide_eq_true_eq] at hin
  have hname := hblanks range hrange (c.toNat - range.1) (by omega)
  rw [Nat.add_sub_cancel' hin.1, Char.ofNat_toNat, h] at hname
  cases hname

theorem continuesName_of_startsName (h : startsName c = true) : continuesName c = true := by
  unfold startsName at h
  unfold continuesName Text.isLetterOrNumber
  simp only [Bool.or_eq_true] at h ⊢
  exact h.imp_left .inl

/-- Small letters and underscores begin names. -/
theorem startsName_of_small (h : ('a' ≤ c ∧ c ≤ 'z') ∨ c = '_') : startsName c = true := by
  unfold startsName
  rw [Bool.or_eq_true, decide_eq_true_eq]
  refine h.imp_left fun ⟨hlow, hhigh⟩ => List.any_eq_true.2 ⟨(0x61, 0x7A), by decide, ?_⟩
  have hlow : 97 ≤ c.toNat := hlow
  have hhigh : c.toNat ≤ 122 := hhigh
  simpa using ⟨hlow, hhigh⟩

theorem IsIdentifier.continuesName {t : Text} (h : IsIdentifier t) : ∀ c ∈ t, continuesName c = true := by
  obtain ⟨first, rest, rfl⟩ := List.exists_cons_of_ne_nil h.nonempty
  exact List.forall_mem_cons.2 ⟨continuesName_of_startsName (h.start first rfl), h.others⟩

theorem IsIdentifier.not_isBlank {t : Text} (h : IsIdentifier t) : ∀ c ∈ t, Text.isBlank c = false :=
  fun c hc => not_isBlank_of_continuesName (h.continuesName c hc)

/-- An identifier has no braces and no line breaks. -/
theorem IsIdentifier.not_mem {t : Text} (h : IsIdentifier t) : '{' ∉ t ∧ '\n' ∉ t := by
  constructor
  · exact fun hmem => absurd (h.continuesName _ hmem) (by decide +kernel)
  · exact fun hmem => absurd (h.continuesName _ hmem) (by decide +kernel)

/-! ## Words are read -/

/-- A class of characters without marks and quotes. -/
theorem ordinary_of_class {p : Char → Bool} (hp : ('\'' :: '"' :: marks).any p = false) (h : p c = true) :
    c ∉ marks ∧ ¬ (c = '\'' ∨ c = '"') := by
  have hne : ∀ d ∈ '\'' :: '"' :: marks, c ≠ d := by
    rintro d hd rfl
    exact List.any_eq_false.1 hp c hd h
  refine ⟨fun hc => hne c (by simp [hc]) rfl, ?_⟩
  rintro (heq | heq)
  · exact hne '\'' (by simp) heq
  · exact hne '"' (by simp) heq

/-- No name begins with a digit. -/
theorem not_isDigit_of_startsName (h : startsName c = true) : ¬ c.isDigit = true := by
  have hdigits : ∀ n < 10, startsName (Char.ofNat (48 + n)) = false := by decide +kernel
  intro hc
  simp only [Char.isDigit, Bool.and_eq_true, decide_eq_true_eq, ge_iff_le, UInt32.le_iff_toNat_le] at hc
  have hlow : 48 ≤ c.toNat := hc.1
  have hhigh : c.toNat ≤ 57 := hc.2
  have hname := hdigits (c.toNat - 48) (by omega)
  rw [Nat.add_sub_cancel' hlow, Char.ofNat_toNat, h] at hname
  cases hname

/-- A run to the end of the text leaves nothing. -/
theorem span_of_forall {p : Char → Bool} (h : ∀ d ∈ text, p d = true) :
    text.takeWhile p = text ∧ text.dropWhile p = [] :=
  ⟨List.takeWhile_eq_self_iff.2 h, List.dropWhile_eq_nil_iff.2 h⟩

theorem text_int_of_nonneg {i : Int64} (h : 0 ≤ i) :
    (Value.int i).text = digitsOf i.toInt.toNat ∧ i.toInt.toNat ≤ maxInt ∧ Int64.ofNat i.toInt.toNat = i := by
  have hnonneg : 0 ≤ i.toInt := by
    rw [Int64.le_iff_toInt_le, Int64.toInt_zero] at h
    exact h
  have hlt := Int64.toInt_lt i
  refine ⟨?_, ?_, Int64.ofNat_toNatClampNeg i h⟩
  · have hcast : i.toInt = (i.toInt.toNat : Int) := (Int.toNat_of_nonneg hnonneg).symm
    have hshown : toString i.toInt = toString i.toInt.toNat := by
      conv_lhs => rw [hcast]
      rfl
    rw [Value.text, hshown, Nat.toString_eq_ofList_toDigits, String.toList_ofList]
    rfl
  · unfold maxInt
    omega

/-- The digits of a number are the number again. -/
theorem number_digitsOf {n : Nat} (h : n ≤ maxInt) : number (digitsOf n) = .ok (.int (Int64.ofNat n)) := by
  have hpoint : '.' ∉ digitsOf n := fun hmem =>
    absurd (Nat.isDigit_of_mem_toDigits (by decide) (by decide) hmem) (by decide)
  have hvalue : Numeral.ofDigits (digitsOf n) = n := by
    have hread := Nat.ofDigitChars_ten_toDigits (n := n)
    rwa [Nat.ofDigitChars_eq_foldl] at hread
  rw [number, if_neg hpoint]
  dsimp only
  rw [hvalue, if_pos h]

/-- A word by itself is its symbol. -/
theorem Word.next {symbol : Symbol} {word : Text} (h : symbol.Word word) :
    ∃ c text, word = c :: text ∧ Symbol.next c text = .ok (some symbol, []) := by
  -- names, numbers and strings are runs that reach the end of the word, the other words are fixed
  cases h with
  | @name n hn =>
    obtain ⟨c, text, hword⟩ := List.exists_cons_of_ne_nil hn.nonempty
    have hstart : startsName c = true := hn.start c (by rw [hword]; rfl)
    have hothers : ∀ d ∈ text, continuesName d = true := fun d hd => hn.others d (by rw [hword]; exact hd)
    obtain ⟨hmark, hquote⟩ := ordinary_of_class (by decide +kernel) hstart
    have hdigit := not_isDigit_of_startsName hstart
    obtain ⟨htake, hdrop⟩ := span_of_forall hothers
    refine ⟨c, text, hword, ?_⟩
    rw [next_of_not_mem_marks hmark, if_neg hquote, if_neg hdigit, if_pos hstart, htake, hdrop, ← hword,
      String.ofList_toList]
  | @int i hi =>
    obtain ⟨htext, hmax, hvalue⟩ := text_int_of_nonneg hi
    obtain ⟨c, text, hword⟩ := List.exists_cons_of_ne_nil
      (Nat.toDigits_ne_nil (n := i.toInt.toNat) (b := 10))
    have hdigits : ∀ d ∈ c :: text, d.isDigit = true := fun d hd =>
      Nat.isDigit_of_mem_toDigits (by decide) (by decide) (hword ▸ hd)
    obtain ⟨hc, hothers⟩ := List.forall_mem_cons.1 hdigits
    obtain ⟨hmark, hquote⟩ := ordinary_of_class (by decide) hc
    have hrun : ∀ d ∈ text, continuesNumber d = true := fun d hd => by
      rw [continuesNumber, hothers d hd]
      rfl
    obtain ⟨htake, hdrop⟩ := span_of_forall hrun
    refine ⟨c, text, htext.trans hword, ?_⟩
    rw [next_of_not_mem_marks hmark, if_neg hquote, if_pos hc, htake, hdrop, ← hword]
    show (number (digitsOf _) >>= _) = _
    rw [number_digitsOf hmax, hvalue]
    rfl
  | @str t quote hquote hinside =>
    have hmark : quote ∉ marks := by rcases hquote with rfl | rfl <;> decide
    have hrun : ∀ d ∈ t.toList, decide (d ≠ quote) = true := by
      intro d hd
      rw [decide_eq_true_eq]
      rintro rfl
      exact hinside hd
    have hspan := Text.span_append (· ≠ quote) [quote] t.toList fun _ d hd => by
      cases hd
      simp
    obtain ⟨htake, hdrop⟩ := span_of_forall hrun
    refine ⟨quote, t.toList ++ [quote], rfl, ?_⟩
    rw [next_of_not_mem_marks hmark, if_pos hquote, hspan.1, hspan.2, htake, hdrop, String.ofList_toList]
    rfl
  | relation r => cases r <;> exact ⟨_, _, rfl, rfl⟩
  | openParen | closeParen | dot | comma | minus => exact ⟨_, _, rfl, rfl⟩

/-- A word is read as its symbol, in front of anything that does not continue it. -/
theorem Word.read_append {symbol : Symbol} {word : Text} (h : symbol.Word word) (hends : symbol.Ends rest) :
    read (word ++ rest) = (symbol :: ·) <$> read rest := by
  obtain ⟨c, text, rfl, hnext⟩ := h.next
  have hbehind : Symbol.next c (text ++ rest) = .ok (some symbol, [] ++ rest) :=
    next_append hnext fun _ s hs => by cases hs; exact hends
  rw [List.cons_append, read_cons hbehind]
  rfl

/-- A word by itself is read as its symbol. -/
theorem Word.read {symbol : Symbol} {word : Text} (h : symbol.Word word) : Symbol.read word = .ok [symbol] := by
  obtain ⟨c, text, rfl, hnext⟩ := h.next
  rw [read_cons hnext, Symbol.read]
  rfl

/-- Blanks in front of a symbol do not matter. -/
theorem Blanks.read_append (rest : Text) : ∀ {gap : Text}, Blanks gap → read (gap ++ rest) = read rest
  | [], _ => rfl
  | c :: gap, h => by
    obtain ⟨hc, hgap⟩ := List.forall_mem_cons.1 h
    have hblank : Symbol.next c (gap ++ rest) = .ok (none, gap ++ rest) := by
      rcases hc with rfl | rfl <;> rfl
    rw [List.cons_append, read_cons hblank, Blanks.read_append rest hgap]
    cases read rest <;> rfl

/-- A text that is spelled from symbols is read as these symbols. -/
theorem Spelled.read {symbols : List Symbol} {text : Text} (h : Spelled symbols text) :
    Symbol.read text = .ok symbols := by
  induction h with
  | @nil gap hgap =>
    have hread := hgap.read_append []
    rwa [List.append_nil, Symbol.read] at hread
  | cons hgap hword hends _ ih =>
    rw [hgap.read_append, hword.read_append hends, ih]
    rfl

/-- More blanks in front change nothing. -/
theorem Spelled.behind_blanks {symbols : List Symbol} {gap text : Text} (hgap : Blanks gap)
    (h : Spelled symbols text) : Spelled symbols (gap ++ text) := by
  cases h with
  | nil hgap' => exact .nil (List.forall_mem_append.2 ⟨hgap, hgap'⟩)
  | cons hgap' hword hends hrest =>
    rw [← List.append_assoc]
    exact .cons (List.forall_mem_append.2 ⟨hgap, hgap'⟩) hword hends hrest

/-- With blanks in front of every word, nothing continues the word before. -/
theorem spelled_of_gaps : ∀ {symbols : List Symbol} {parts : List (Text × Text)},
    List.Forall₂ (fun symbol part => Blanks part.1 ∧ part.1 ≠ [] ∧ symbol.Word part.2) symbols parts →
      Spelled symbols (parts.flatMap fun part => part.1 ++ part.2)
  | [], [], .nil => .nil (List.forall_mem_nil _)
  | symbol :: symbols, (gap, word) :: parts, .cons ⟨hgap, _, hword⟩ hrest => by
    have hclosed : Closed (parts.flatMap fun part => part.1 ++ part.2) := by
      cases hrest with
      | nil => exact fun c hc => nomatch hc
      | @cons _ part _ _ hpart _ =>
        obtain ⟨c, gap', hgap'⟩ := List.exists_cons_of_ne_nil hpart.2.1
        have hblank : c = ' ' ∨ c = '\t' := hpart.1 c (by rw [hgap']; exact List.mem_cons_self)
        intro d hd
        rw [List.flatMap_cons, hgap'] at hd
        cases hd
        rcases hblank with rfl | rfl <;> decide +kernel
    rw [List.flatMap_cons, List.append_assoc]
    exact .cons hgap hword (hclosed.ends symbol) (spelled_of_gaps hrest)

end Symbol

end PageTemplate
