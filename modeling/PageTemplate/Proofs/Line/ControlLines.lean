/-
Control lines, said without a scanner. The tag of a line begins at the first opening mark of the line and ends
at the last closing mark behind it; its word is as long as it can be, and what stands behind the word, without
white space around it, is its condition. So a line has at most one tag, and a line with both marks is a control
line just when its tag has the word of a keyword, and a condition just when this keyword takes one.

A line is read by its tag alone: what stands in front of the tag and behind it is nowhere looked at.
-/
import Mathlib.Data.List.TakeWhile
import PageTemplate.Proofs.Line.Compilation

namespace PageTemplate

open Statement (Tagged tagOpen tagClose isKeywordChar readControl splitTag? Malformed)
open Text (FirstPlace LastPlace)

namespace Keyword

theorem isKeywordChar_of_mem_word : ∀ keyword : Keyword,
    ∀ c ∈ keyword.word.toList, isKeywordChar c = true
  | .ifBlock | .elifBranch | .elseBranch | .forLoop | .endBlock => List.all_eq_true.1 (by decide +kernel)

theorem word_ne_nil : ∀ keyword : Keyword, keyword.word.toList ≠ []
  | .ifBlock | .elifBranch | .elseBranch | .forLoop | .endBlock => by decide +kernel

theorem named?_word : ∀ keyword : Keyword, named? keyword.word = some keyword
  | .ifBlock | .elifBranch | .elseBranch | .forLoop | .endBlock => by decide +kernel

end Keyword

/-- A tag in a line: what stands between its marks, a word and the rest, and what stands around it. -/
@[ext]
structure Tag where
  before : Text
  word : Text
  rest : Text
  after : Text

namespace Tag

/-- What stands between the marks. -/
def inner (t : Tag) : Text := t.word ++ t.rest

/-- The tag as it is written. -/
def raw (t : Tag) : Text := tagOpen ++ [' '] ++ (t.inner ++ ' ' :: tagClose)

/-- The condition: what stands behind the word, without white space around it. -/
def condition (t : Tag) : Option Text := if t.rest.trim = [] then none else some t.rest.trim

/-- The word has letters only, and ends where no letter follows. -/
structure Spelled (t : Tag) : Prop where
  letters : ∀ c ∈ t.word, isKeywordChar c = true
  maximal : ∀ c ∈ t.rest.head?, isKeywordChar c = false

/-- The tag is that of the line: it stands between the first opening mark and the last closing mark behind it. -/
structure In (t : Tag) (line : Text) : Prop where
  opens : FirstPlace (tagOpen ++ [' ']) line t.before (t.inner ++ ' ' :: tagClose ++ t.after)
  closes : LastPlace (' ' :: tagClose) (t.inner ++ ' ' :: tagClose ++ t.after) t.inner t.after
  spelled : t.Spelled

variable {t t' : Tag} {line : Text} {keyword : Keyword} {fault : GrammarFault}

/-! ## The tag of a line -/

theorem In.whole (h : t.In line) : line = t.before ++ (t.raw ++ t.after) := by
  rw [h.opens.whole, raw]
  simp

theorem In.tagged (h : t.In line) : Tagged line := by
  rw [h.whole]
  constructor
  · exact ⟨t.before, [' '] ++ (t.inner ++ ' ' :: tagClose) ++ t.after, by simp [raw]⟩
  · exact ⟨t.before ++ tagOpen ++ [' '] ++ t.inner ++ [' '], t.after, by simp [raw]⟩

theorem Spelled.span (h : t.Spelled) :
    t.inner.takeWhile isKeywordChar = t.word ∧ t.inner.dropWhile isKeywordChar = t.rest := by
  have hrest : t.rest.takeWhile isKeywordChar = [] ∧ t.rest.dropWhile isKeywordChar = t.rest := by
    cases hr : t.rest with
    | nil => exact ⟨rfl, rfl⟩
    | cons c rest =>
      have hc := h.maximal c (by rw [hr]; rfl)
      exact ⟨List.takeWhile_cons_of_neg (by simp [hc]), List.dropWhile_cons_of_neg (by simp [hc])⟩
  rw [inner, List.takeWhile_append_of_pos h.letters, List.dropWhile_append_of_pos h.letters, hrest.1, hrest.2,
    List.append_nil]
  exact ⟨rfl, rfl⟩

/-- A line has one tag at most. -/
theorem In.unique (h : t.In line) (h' : t'.In line) : t = t' := by
  have hopen := (Text.cut?_eq_some_iff.2 h.opens).symm.trans (Text.cut?_eq_some_iff.2 h'.opens)
  obtain ⟨hbefore, hbehind⟩ := Prod.mk.inj (Option.some.inj hopen)
  have hclose := (Text.cutLast?_eq_some_iff.2 (hbehind ▸ h.closes)).symm.trans
    (Text.cutLast?_eq_some_iff.2 h'.closes)
  obtain ⟨hinner, hafter⟩ := Prod.mk.inj (Option.some.inj hclose)
  obtain ⟨hword, hrest⟩ := h.spelled.span
  obtain ⟨hword', hrest'⟩ := h'.spelled.span
  exact Tag.ext hbefore (by rw [← hword, hinner, hword']) (by rw [← hrest, hinner, hrest']) hafter

theorem splitTag?_of_in (h : t.In line) :
    splitTag? line = if t.word = [] then none else some (t.word, t.condition) := by
  obtain ⟨htake, hdrop⟩ := h.spelled.span
  rw [splitTag?, Text.cut?_eq_some_iff.2 h.opens]
  simp only [Option.bind_eq_bind, Option.bind_some, Text.cutLast?_eq_some_iff.2 h.closes, htake, hdrop]
  cases t.word with
  | nil => rfl
  | cons c word => rw [if_neg (List.cons_ne_nil _ _)]; rfl

/-- A line that falls into a word and a condition has a tag. -/
theorem exists_in_of_splitTag? {parts : Text × Option Text} (h : splitTag? line = some parts) :
    ∃ t : Tag, t.In line := by
  simp only [splitTag?, Option.bind_eq_bind, Option.bind_eq_some_iff, Prod.exists] at h
  obtain ⟨before, rest, hopen, inner, after, hclose, -⟩ := h
  refine ⟨⟨before, inner.takeWhile isKeywordChar, inner.dropWhile isKeywordChar, after⟩, ?_⟩
  have hinner : inner.takeWhile isKeywordChar ++ inner.dropWhile isKeywordChar = inner :=
    List.takeWhile_append_dropWhile
  have hlast := Text.cutLast?_eq_some_iff.1 hclose
  rw [hlast.whole] at hopen hlast
  refine ⟨?_, ?_, fun c hc => List.mem_takeWhile_imp hc, fun c hc => ?_⟩
  · rw [Tag.inner, hinner]
    exact Text.cut?_eq_some_iff.1 hopen
  · rw [Tag.inner, hinner]
    exact hlast
  · have hhead := List.head?_dropWhile_not isKeywordChar inner
    rw [Option.mem_def.1 hc] at hhead
    exact hhead

/-- A tag between white space is that of its line: the marks of a tag have no place in white space. -/
theorem Spelled.in_of_blank (h : t.Spelled) (hbefore : ∀ c ∈ t.before, Text.isBlank c = true)
    (hafter : ∀ c ∈ t.after, Text.isBlank c = true) : t.In (t.before ++ (t.raw ++ t.after)) := by
  refine ⟨⟨by simp [raw], fun before' after' heq => ?_⟩, ⟨rfl, fun before' after' heq => ?_⟩, h⟩
  · rw [List.append_assoc] at heq
    rcases List.append_eq_append_iff.1 heq with ⟨m, rfl, -⟩ | ⟨m, hm, hmark⟩
    · simp
    · cases m with
      | nil => simp [hm]
      | cons c m =>
        obtain ⟨rfl, -⟩ := List.cons.inj hmark
        exact absurd (hbefore '{' (by simp [hm])) (by decide)
  · rw [List.append_assoc, List.append_assoc] at heq
    rcases List.append_eq_append_iff.1 heq with ⟨m, rfl, hmark⟩ | ⟨m, hm, -⟩
    · -- behind the closing mark no other one begins, and in it neither
      rcases m with _ | ⟨c, _ | ⟨d, _ | ⟨e, m⟩⟩⟩
      · simp
      · exact absurd hmark (by simp [tagClose])
      · exact absurd hmark (by simp [tagClose])
      · obtain ⟨-, -, -, hrest⟩ : ' ' = c ∧ '%' = d ∧ '}' = e ∧ t.after = m ++ ' ' :: '%' :: '}' :: after' := by
          simpa [tagClose] using hmark
        exact absurd (hafter '%' (by simp [hrest])) (by decide)
    · simp [hm]

/-- The tag without what stands around it. -/
def alone (t : Tag) : Tag := { t with before := [], after := [] }

/-- A tag that stands alone is read like that of a line. -/
theorem In.alone (h : t.In line) : t.alone.In t.raw := by
  have hspelled : t.alone.Spelled := ⟨h.spelled.letters, h.spelled.maximal⟩
  have hin := hspelled.in_of_blank (List.forall_mem_nil _) (List.forall_mem_nil _)
  show t.alone.In t.alone.raw
  rwa [Tag.alone, List.nil_append, List.append_nil] at hin

/-! ## Tags of control lines -/

/-- The tag is that of a control line: its word is the word of the keyword, and there is a condition just if
the keyword takes one. -/
structure Controls (t : Tag) (keyword : Keyword) : Prop where
  word : t.word = keyword.word.toList
  condition : t.rest.trim ≠ [] ↔ keyword.takesCondition = true

/-- Why a tag is not that of a control line. -/
inductive Faulty (t : Tag) : GrammarFault → Prop
  | noWord : t.word = [] → Faulty t .noStatement
  | unknown : t.word ≠ [] → (∀ keyword : Keyword, t.word ≠ keyword.word.toList) →
      Faulty t (.unknownStatement (String.ofList t.word))
  | missing {keyword : Keyword} : t.word = keyword.word.toList → keyword.takesCondition = true →
      t.rest.trim = [] → Faulty t (.missingCondition keyword.word)
  | unwanted {keyword : Keyword} : t.word = keyword.word.toList → keyword.takesCondition = false →
      t.rest.trim ≠ [] → Faulty t (.unwantedCondition keyword.word)

/-- The statement that the tag makes with the keyword. -/
def control (t : Tag) (keyword : Keyword) (indent : Int32) : Control :=
  ⟨keyword, t.condition, indent + keyword.ownShift, indent + keyword.nextShift⟩

theorem Faulty.alone (h : t.Faulty fault) : t.alone.Faulty fault := by
  cases h with
  | noWord hword => exact .noWord hword
  | unknown hne hword => exact .unknown (t := t.alone) hne hword
  | missing hword htakes hrest => exact .missing hword htakes hrest
  | unwanted hword htakes hrest => exact .unwanted hword htakes hrest

theorem controls_or_faulty (t : Tag) : (∃ keyword, t.Controls keyword) ∨ ∃ fault, t.Faulty fault := by
  by_cases hword : ∃ keyword : Keyword, t.word = keyword.word.toList
  · obtain ⟨keyword, hword⟩ := hword
    by_cases hrest : t.rest.trim = [] <;> cases htakes : keyword.takesCondition
    · exact .inl ⟨keyword, hword, by simp [hrest, htakes]⟩
    · exact .inr ⟨_, .missing hword htakes hrest⟩
    · exact .inr ⟨_, .unwanted hword htakes hrest⟩
    · exact .inl ⟨keyword, hword, by simp [hrest, htakes]⟩
  · by_cases hnil : t.word = []
    · exact .inr ⟨_, .noWord hnil⟩
    · exact .inr ⟨_, .unknown hnil fun keyword heq => hword ⟨keyword, heq⟩⟩

theorem splitTag?_of_word (h : t.In line) (hword : t.word = keyword.word.toList) :
    splitTag? line = some (keyword.word.toList, t.condition) := by
  rw [splitTag?_of_in h, hword, if_neg keyword.word_ne_nil]

theorem In.readControl_of_controls (h : t.In line) (hcontrols : t.Controls keyword) :
    readControl line = .ok (keyword, t.condition) := by
  have hcondition := hcontrols.condition
  rw [readControl, splitTag?_of_word h hcontrols.word, condition]
  by_cases hrest : t.rest.trim = [] <;> cases htakes : keyword.takesCondition <;>
    simp_all [Keyword.named?_word]

theorem In.readControl_of_faulty (h : t.In line) (hfault : t.Faulty fault) : readControl line = .error fault := by
  cases hfault with
  | noWord hword => rw [readControl, splitTag?_of_in h, if_pos hword]
  | unknown hne hword =>
    have hnone : Keyword.named? (String.ofList t.word) = none := by
      refine List.find?_eq_none.2 fun keyword _ heq => hword keyword ?_
      rw [of_decide_eq_true heq, String.toList_ofList]
    rw [readControl, splitTag?_of_in h, if_neg hne]
    dsimp only
    rw [hnone]
  | missing hword htakes hrest | unwanted hword htakes hrest =>
    rw [readControl, splitTag?_of_word h hword, condition]
    simp [Keyword.named?_word, htakes, hrest]

end Tag

namespace Statement

variable {line : Text} {keyword : Keyword} {fault : GrammarFault}

/-- The line has the tag of a control line. -/
def WellTagged (line : Text) : Prop := ∃ (t : Tag) (keyword : Keyword), t.In line ∧ t.Controls keyword

/-- Why a line is no control line: it has no tag, or a faulty one. -/
inductive Offends (line : Text) : GrammarFault → Prop
  | noTag : (∀ t : Tag, ¬ t.In line) → Offends line .noStatement
  | faultyTag {t : Tag} {fault : GrammarFault} : t.In line → t.Faulty fault → Offends line fault

theorem wellTagged_or_offends (line : Text) : WellTagged line ∨ ∃ fault, Offends line fault := by
  by_cases htag : ∃ t : Tag, t.In line
  · obtain ⟨t, ht⟩ := htag
    rcases t.controls_or_faulty with ⟨keyword, hcontrols⟩ | ⟨fault, hfault⟩
    · exact .inl ⟨t, keyword, ht, hcontrols⟩
    · exact .inr ⟨fault, .faultyTag ht hfault⟩
  · exact .inr ⟨_, .noTag fun t ht => htag ⟨t, ht⟩⟩

theorem Offends.readControl (h : Offends line fault) : readControl line = .error fault := by
  cases h with
  | noTag hnone =>
    rw [Statement.readControl]
    cases hsplit : splitTag? line with
    | none => rfl
    | some parts =>
      obtain ⟨t, ht⟩ := Tag.exists_in_of_splitTag? hsplit
      exact absurd ht (hnone t)
  | faultyTag ht hfault => exact ht.readControl_of_faulty hfault

theorem Offends.not_wellTagged (h : Offends line fault) : ¬ WellTagged line := by
  rintro ⟨t, keyword, ht, hcontrols⟩
  have hread := (ht.readControl_of_controls hcontrols).symm.trans h.readControl
  cases hread

theorem readControl_eq_error_iff : readControl line = .error fault ↔ Offends line fault := by
  refine ⟨fun h => ?_, Offends.readControl⟩
  rcases wellTagged_or_offends line with ⟨t, keyword, ht, hcontrols⟩ | ⟨fault', hfault⟩
  · rw [ht.readControl_of_controls hcontrols] at h
    cases h
  · rw [hfault.readControl] at h
    cases h
    exact hfault

theorem malformed_iff : Malformed line fault ↔ Tagged line ∧ Offends line fault :=
  ⟨fun h => ⟨h.tagged, readControl_eq_error_iff.1 h.reason⟩, fun h => ⟨h.1, h.2.readControl⟩⟩

/-! ## One line -/

variable {buffer : String} {number : Nat} {indent : Int32}

/-- What compiling makes of a line. -/
inductive Answers (buffer : String) (number : Nat) (indent : Int32) (line : Text) :
    Except TemplateError Statement → Prop
  | literal : ¬ Tagged line → Answers buffer number indent line (.ok (.literal ⟨line, indent, indent, buffer⟩))
  | control {t : Tag} {keyword : Keyword} : t.In line → t.Controls keyword →
      Answers buffer number indent line (.ok (.control (t.control keyword indent)))
  | error {fault : GrammarFault} : Tagged line → Offends line fault →
      Answers buffer number indent line (.error (.grammar number (String.ofList line) fault))

theorem Answers.ofLine_eq {result : Except TemplateError Statement} (h : Answers buffer number indent line result) :
    ofLine buffer number indent line = result := by
  cases h with
  | literal hliteral => exact ofLine_of_not_tagged hliteral
  | control ht hcontrols =>
    rw [ofLine, if_pos (isControlLine_eq_true_iff.2 ht.tagged), ht.readControl_of_controls hcontrols]
    rfl
  | error htagged hfault => exact ofLine_of_malformed (malformed_iff.2 ⟨htagged, hfault⟩)

theorem exists_answers (buffer : String) (number : Nat) (indent : Int32) (line : Text) :
    ∃ result, Answers buffer number indent line result := by
  by_cases htagged : Tagged line
  · rcases wellTagged_or_offends line with ⟨t, keyword, ht, hcontrols⟩ | ⟨fault, hfault⟩
    · exact ⟨_, .control ht hcontrols⟩
    · exact ⟨_, .error htagged hfault⟩
  · exact ⟨_, .literal htagged⟩

theorem ofLine_eq_iff {result : Except TemplateError Statement} :
    ofLine buffer number indent line = result ↔ Answers buffer number indent line result := by
  refine ⟨fun h => ?_, Answers.ofLine_eq⟩
  obtain ⟨result', hanswers⟩ := exists_answers buffer number indent line
  rwa [← h, hanswers.ofLine_eq]

/-- A tag compiles to the same statement with other text around it and without it. -/
theorem ofLine_raw_eq_control_iff {t : Tag} (ht : t.In line) {c : Control} :
    ofLine buffer number indent t.raw = .ok (.control c) ↔ ofLine buffer number indent line = .ok (.control c) := by
  rcases t.controls_or_faulty with ⟨keyword, hcontrols⟩ | ⟨fault, hfault⟩
  · have halone : t.alone.Controls keyword := ⟨hcontrols.word, hcontrols.condition⟩
    rw [(Answers.control ht hcontrols).ofLine_eq, (Answers.control ht.alone halone).ofLine_eq]
    rfl
  · have halone : Offends t.raw fault := .faultyTag ht.alone hfault.alone
    rw [(Answers.error ht.tagged (.faultyTag ht hfault)).ofLine_eq, (Answers.error ht.alone.tagged halone).ofLine_eq]
    simp

/-- A line is read by its tag alone. It makes a control statement just if its tag is that of a control line, and
then it is the statement of the tag without what stands around it; so other text in such a line is lost, be it
white space or not. If the tag is faulty or missing, the error shows the line, and without one of the marks the line
is literal. A tag between white space is the tag of its line. -/
theorem ofLine_reads_tag_alone (buffer : String) (number : Nat) (indent : Int32) (line : Text) :
    (∀ result, ofLine buffer number indent line = result ↔ Answers buffer number indent line result) ∧
    (∀ t : Tag, t.In line → line = t.before ++ (t.raw ++ t.after) ∧ (∀ t' : Tag, t'.In line → t = t') ∧
      ∀ c, ofLine buffer number indent t.raw = .ok (.control c) ↔
        ofLine buffer number indent line = .ok (.control c)) ∧
    ∀ t : Tag, t.Spelled → (∀ c ∈ t.before, Text.isBlank c = true) → (∀ c ∈ t.after, Text.isBlank c = true) →
      t.In (t.before ++ (t.raw ++ t.after)) :=
  ⟨fun _ => ofLine_eq_iff, fun _ ht => ⟨ht.whole, fun _ => ht.unique, fun _ => ofLine_raw_eq_control_iff ht⟩,
    fun _ => Tag.Spelled.in_of_blank⟩

/-- The end of a block, with and without the words around it. -/
theorem ofLine_reads_tag_alone_of_end :
    let t : Tag := ⟨['x', ' '], ['e', 'n', 'd'], [], [' ', 'y']⟩
    let line : Text := ['x', ' '] ++ (t.raw ++ [' ', 'y'])
    t.In line ∧ ∀ c, ofLine "output" 1 0 t.raw = .ok (.control c) ↔
      ofLine "output" 1 0 line = .ok (.control c) := by
  intro t line
  have hspelled : t.Spelled := ⟨by simp [t, isKeywordChar], fun c hc => nomatch hc⟩
  have ht : t.In line := ⟨Text.cut?_eq_some_iff.1 rfl, Text.cutLast?_eq_some_iff.1 rfl, hspelled⟩
  exact ⟨ht, ((ofLine_reads_tag_alone "output" 1 0 line).2.1 t ht).2.2⟩

/-- What looks like a second tag is in the condition of the first one. -/
example : readControl "\x7b% if a %\x7d \x7b% if b %\x7d c".toList =
    .ok (.ifBlock, some "a %\x7d \x7b% if b".toList) := rfl

/-- The words in front of a tag are in no statement and no error. -/
theorem ofLine_drops_text : ¬ ∀ (buffer : String) (number : Nat) (indent : Int32) (line : Text) (c : Control),
    ofLine buffer number indent line = .ok (.control c) → ∃ t : Tag,
      (∀ c ∈ t.before, Text.isBlank c = true) ∧ (∀ c ∈ t.after, Text.isBlank c = true) ∧
        line = t.before ++ (t.raw ++ t.after) := by
  intro h
  obtain ⟨t, hbefore, -, hline⟩ := h "output" 1 0 "text \x7b% end %\x7d".toList ⟨.endBlock, none, -2, -2⟩ rfl
  cases hb : t.before with
  | nil =>
    rw [hb] at hline
    cases (List.cons.inj hline).1
  | cons c before =>
    rw [hb] at hline hbefore
    obtain ⟨rfl, -⟩ := List.cons.inj hline
    exact absurd (hbefore 't' List.mem_cons_self) (by decide)

end Statement

end PageTemplate
