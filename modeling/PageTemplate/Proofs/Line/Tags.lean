/-
Lines as they are written. A tag is read back as its keyword and its trimmed condition; a line without an
opening brace is literal and stays as it is when it is substituted; and in a line with one placeholder only
this placeholder is replaced. So templates that are put together from such lines need no search for tags,
directives and placeholders to be followed.
-/
import PageTemplate.Proofs.Line.ControlLines
import PageTemplate.Proofs.Line.Resolution

namespace PageTemplate

open Statement (Reads Tagged tagOpen tagClose)

namespace Text

variable {text : Text}

/-! ## Parts of written lines -/

/-- A part without line breaks is a part of a line. -/
theorem exists_infix_of_infix_ofLines {pattern : Text} (hne : pattern ≠ []) (hpattern : '\n' ∉ pattern) :
    ∀ {lines : List Text}, pattern <:+: ofLines lines → ∃ line ∈ lines, pattern <:+: line
  | [], h => absurd (List.infix_nil.1 h) hne
  | [line], h => ⟨line, List.mem_cons_self, by simpa [ofLines] using h⟩
  | line :: next :: rest, ⟨before, after, heq⟩ => by
    rw [ofLines_cons_cons, List.append_assoc] at heq
    rcases List.append_eq_append_iff.1 heq with ⟨m, hm, hrest⟩ | ⟨m, rfl, hrest⟩
    · rcases List.append_eq_append_iff.1 hrest with ⟨k, hk, -⟩ | ⟨k, hk, hnext⟩
      · exact ⟨line, List.mem_cons_self, before, k, by rw [hm, hk, List.append_assoc]⟩
      · -- what is left of the pattern behind the line would begin with the line break
        cases k with
        | nil => exact ⟨line, List.mem_cons_self, before, [], by rw [hm, hk]; simp⟩
        | cons d k =>
          obtain ⟨rfl, -⟩ := List.cons.inj hnext
          exact absurd (by rw [hk]; simp) hpattern
    · cases m with
      | nil =>
        obtain ⟨p, pattern, rfl⟩ := List.exists_cons_of_ne_nil hne
        obtain ⟨rfl, -⟩ := List.cons.inj hrest
        exact absurd List.mem_cons_self hpattern
      | cons d m =>
        obtain ⟨-, hrest⟩ := List.cons.inj hrest
        have hbehind : pattern <:+: ofLines (next :: rest) :=
          ⟨m, after, by rw [List.append_assoc]; exact hrest.symm⟩
        obtain ⟨found, hfound, hpart⟩ := exists_infix_of_infix_ofLines hne hpattern hbehind
        exact ⟨found, List.mem_cons_of_mem _ hfound, hpart⟩

/-- Where no line has the beginning of a directive, there is none. -/
theorem no_directive_ofLines (lines : List Text) (h : ∀ line ∈ lines, ¬ SourcePart.opening <:+: line)
    (before rest after : Text) :
    ofLines lines ≠ before ++ SourcePart.opening ++ (rest ++ SourcePart.closing ++ after) := by
  intro heq
  obtain ⟨line, hline, hopening⟩ := exists_infix_of_infix_ofLines (by decide) (by decide +kernel)
    ⟨before, rest ++ SourcePart.closing ++ after, heq.symm⟩
  exact h line hline hopening

theorem Braced.of_not_mem (h : '{' ∉ text) : Braced text := by
  have hbraced := Braced.nil.append h
  rwa [List.append_nil] at hbraced

theorem Braced.append_right {t : Text} (h : Braced text) (ht : '{' ∉ t) : Braced (text ++ t) :=
  h.concat (.of_not_mem ht)

theorem Braced.no_tagOpen (h : Braced text) : ¬ tagOpen <:+: text := by
  rintro ⟨before, after, heq⟩
  exact h.no_tag before after (by rw [← heq]; simp [tagOpen])

/-- Where no brace opens, no placeholder stands. -/
theorem not_in_of_not_mem (h : '{' ∉ text) (p : Placeholder) : ¬ p.In text := by
  rintro ⟨before, after, hat⟩
  obtain ⟨inner, hraw, -⟩ := hat.written.raw_eq
  rw [hat.whole, hraw] at h
  exact h (by simp)

end Text

/-! ## Control lines -/

namespace Keyword

/-- What stands between the marks of a tag: the word of the keyword, and its condition if it has one. -/
def inner (keyword : Keyword) (condition : Option Text) : Text :=
  keyword.word.toList ++ condition.elim [] (' ' :: ·)

/-- The line that is written for a keyword and its condition. -/
def line (keyword : Keyword) (condition : Option Text) : Text :=
  tagOpen ++ [' '] ++ keyword.inner condition ++ ' ' :: tagClose

/-- The tag of a written line. -/
def tag (keyword : Keyword) (condition : Option Text) : Tag :=
  ⟨[], keyword.word.toList, condition.elim [] (' ' :: ·), []⟩

theorem in_line (keyword : Keyword) (condition : Option Text) :
    (keyword.tag condition).In (keyword.line condition) := by
  have hspelled : (keyword.tag condition).Spelled := by
    refine ⟨keyword.isKeywordChar_of_mem_word, ?_⟩
    cases condition with
    | none => exact fun c hc => nomatch hc
    | some condition => rintro c ⟨⟩; decide
  have hin := hspelled.in_of_blank (List.forall_mem_nil _) (List.forall_mem_nil _)
  have hline : (keyword.tag condition).before ++ ((keyword.tag condition).raw ++ (keyword.tag condition).after) =
      keyword.line condition := by
    simp [tag, Tag.raw, Tag.inner, line, inner]
  rwa [hline] at hin

theorem tagged_line (keyword : Keyword) (condition : Option Text) : Tagged (keyword.line condition) :=
  (keyword.in_line condition).tagged

/-- A tag with a trimmed condition is read as it was written. -/
theorem readControl_line (keyword : Keyword) (h : keyword.takesCondition = true) {condition : Text}
    (hne : condition ≠ []) (htrim : condition.trim = condition) :
    Statement.readControl (keyword.line (some condition)) = .ok (keyword, some condition) := by
  have hrest : (keyword.tag (some condition)).rest.trim = condition :=
    (Text.trim_cons_of_isBlank (by decide) condition).trans htrim
  have hcontrols : (keyword.tag (some condition)).Controls keyword := ⟨rfl, by simp [hrest, hne, h]⟩
  rw [(keyword.in_line _).readControl_of_controls hcontrols, Tag.condition, hrest, if_neg hne]

/-- A tag without a condition is read as it was written. -/
theorem readControl_line_none (keyword : Keyword) (h : keyword.takesCondition = false) :
    Statement.readControl (keyword.line none) = .ok (keyword, none) := by
  have hcontrols : (keyword.tag none).Controls keyword := ⟨rfl, by simp [tag, Text.trim, h]⟩
  exact (keyword.in_line none).readControl_of_controls hcontrols

theorem opening_eq : SourcePart.opening = '{' :: '%' :: ' ' :: 'i' :: 'n' :: "clude ".toList := by
  decide +kernel

/-- No keyword begins like the word of a directive. -/
theorem word_ne_include : ∀ keyword : Keyword,
    ∃ c d word, keyword.word.toList = c :: d :: word ∧ (c = 'i' → d ≠ 'n')
  | .ifBlock => ⟨'i', 'f', [], by decide +kernel, by decide⟩
  | .elifBranch => ⟨'e', 'l', ['i', 'f'], by decide +kernel, by decide⟩
  | .elseBranch => ⟨'e', 'l', ['s', 'e'], by decide +kernel, by decide⟩
  | .forLoop => ⟨'f', 'o', ['r'], by decide +kernel, by decide⟩
  | .endBlock => ⟨'e', 'n', ['d'], by decide +kernel, by decide⟩

theorem braced_inner (keyword : Keyword) {condition : Option Text} (h : Text.Braced (condition.getD [])) :
    Text.Braced (keyword.inner condition) := by
  have hword : '{' ∉ keyword.word.toList := fun hmem =>
    absurd (keyword.isKeywordChar_of_mem_word _ hmem) (by decide)
  refine Text.Braced.append hword ?_
  cases condition with
  | none => exact .nil
  | some c => exact .plain (by decide) h

theorem newline_not_mem_line (keyword : Keyword) {condition : Option Text} (h : '\n' ∉ condition.getD []) :
    '\n' ∉ keyword.line condition := by
  have hword : '\n' ∉ keyword.word.toList := fun hmem =>
    absurd (keyword.isKeywordChar_of_mem_word _ hmem) (by decide)
  have hinner : '\n' ∉ keyword.inner condition := by
    unfold inner
    cases condition with
    | none => simpa using hword
    | some c => exact List.not_mem_append hword (by simpa using h)
  exact List.not_mem_append (List.not_mem_append (by decide) hinner) (by decide)

/-- A written tag is no directive, and none begins in it, if none begins in its condition. -/
theorem opening_not_infix_line (keyword : Keyword) {condition : Option Text}
    (h : Text.Braced (condition.getD [])) : ¬ SourcePart.opening <:+: keyword.line condition := by
  have hinner : Text.Braced (keyword.inner condition ++ ' ' :: tagClose) :=
    (keyword.braced_inner h).append_right (by decide)
  have htail : Text.Braced ('%' :: ' ' :: (keyword.inner condition ++ ' ' :: tagClose)) :=
    .plain (by decide) (.plain (by decide) hinner)
  intro hopening
  rw [show keyword.line condition = '{' :: '%' :: ' ' :: (keyword.inner condition ++ ' ' :: tagClose) by
    simp [line, tagOpen], List.infix_cons_iff] at hopening
  -- at the front the words differ, and behind the first brace no tag begins
  rcases hopening with hfront | hbehind
  · obtain ⟨c, d, word, hword, hne⟩ := keyword.word_ne_include
    rw [opening_eq, inner, hword] at hfront
    simp only [List.cons_append, List.cons_prefix_cons] at hfront
    exact hne hfront.2.2.2.1.symm hfront.2.2.2.2.1.symm
  · have hopen : tagOpen <+: SourcePart.opening := by decide +kernel
    exact htail.no_tagOpen (hopen.isInfix.trans hbehind)

end Keyword

namespace Statement

variable {line : Text}

theorem Reads.of_control {keyword : Keyword} {condition : Option Text} {statement : Statement}
    (h : Reads line statement) (htagged : Tagged line)
    (hread : readControl line = .ok (keyword, condition)) :
    ∃ c : Control, statement = .control c ∧ c.keyword = keyword ∧ c.condition = condition := by
  cases h with
  | literal hliteral => exact absurd htagged hliteral
  | @control c _ hread' =>
    rw [hread] at hread'
    cases hread'
    exact ⟨c, rfl, rfl, rfl⟩

theorem Reads.of_literal {statement : Statement} (h : Reads line statement) (hliteral : ¬ Tagged line) :
    ∃ l : Literal, statement = .literal l ∧ l.content = line := by
  cases h with
  | @literal l _ hcontent => exact ⟨l, rfl, hcontent⟩
  | control htagged => exact absurd htagged hliteral

end Statement

/-! ## Templates of such lines -/

/-- Lines that are all read as statements are compiled. -/
theorem Statement.exists_ofLines_of_reads {buffer : String} {lines : List Text}
    (h : ∀ line ∈ lines, ∃ statement, Reads line statement) :
    ∃ statements, ofLines buffer lines = .ok statements ∧ List.Forall₂ Reads lines statements :=
  exists_ofLines fun line hline _ =>
    let ⟨_, hreads⟩ := h line hline
    hreads.not_malformed

theorem Statement.exists_reads_of_literal {line : Text} (h : ¬ Tagged line) : ∃ statement, Reads line statement :=
  ⟨.literal ⟨line, 0, 0, ""⟩, .literal h rfl⟩

theorem Statement.exists_reads_of_control {line : Text} {keyword : Keyword} {condition : Option Text}
    (htagged : Tagged line) (hread : readControl line = .ok (keyword, condition)) :
    ∃ statement, Reads line statement :=
  ⟨.control ⟨keyword, condition, 0, 0⟩, .control htagged hread⟩

/-! ## Lines without braces -/

/-- A line without placeholders is the same after substitution, in every context. -/
theorem exists_ofLine_of_no_placeholder (ctx : Context) {line : Text} (hnone : ∀ p, ¬ Placeholder.In p line) :
    ∃ s : Substitution, Substitution.ofLine ctx line = .ok s ∧ s.multiline = false ∧
      ∀ f : Segment → Text, (∀ t, f (.text t) = t) → s.segments.flatMap f = line := by
  obtain ⟨s, hs⟩ := Substitution.exists_ofLine ctx fun p hp => absurd hp (hnone p)
  have hof := Substitution.of_ofLine hs
  refine ⟨s, hs, ?_, fun f hf => (hof.replaced f hf).eq_self hnone⟩
  cases hmultiline : s.multiline with
  | false => rfl
  | true =>
    obtain ⟨p, t, hp, -⟩ := hof.multiline hmultiline
    exact absurd hp (hnone p)

section

variable {line : Text} (h : '{' ∉ line)
include h

theorem not_tagged_of_not_mem : ¬ Tagged line := fun htagged =>
  (Text.Braced.of_not_mem h).no_tagOpen htagged.1

theorem opening_not_infix_of_not_mem : ¬ SourcePart.opening <:+: line := fun hopening => by
  have hbrace : '{' ∈ SourcePart.opening := by decide +kernel
  exact h (hopening.subset hbrace)

/-- A line without braces is the same after substitution, in every context. -/
theorem exists_ofLine_of_not_mem (ctx : Context) : ∃ s : Substitution, Substitution.ofLine ctx line = .ok s ∧
    s.multiline = false ∧ ∀ f : Segment → Text, (∀ t, f (.text t) = t) → s.segments.flatMap f = line :=
  exists_ofLine_of_no_placeholder ctx (Text.not_in_of_not_mem h)

end

/-- In a line with one placeholder, this placeholder is replaced by the text that it stands for. -/
theorem exists_ofLine_of_placeholder {ctx : Context} {p : Placeholder} (hp : p.Written) {t : Text}
    (ht : p.Resolves ctx t) {before after : Text} (hbefore : '{' ∉ before) (hafter : '{' ∉ after) :
    ∃ s : Substitution, Substitution.ofLine ctx (before ++ (p.raw ++ after)) = .ok s ∧
      s.text = before ++ (t ++ after) := by
  have honly : ∀ q : Placeholder, q.In (before ++ (p.raw ++ after)) → q = p := by
    intro q hq
    rw [Placeholder.in_append_iff hbefore, Placeholder.in_raw_append_iff hp] at hq
    exact hq.resolve_right (Text.not_in_of_not_mem hafter q)
  have hknown : p.Known := by
    obtain ⟨_, filters, -, hfilters, -⟩ := ht
    intro name hname
    rw [← hfilters] at hname
    obtain ⟨filter, -, hfilter⟩ := List.mem_map.1 hname
    exact ⟨filter, hfilter⟩
  obtain ⟨s, hs⟩ := Substitution.exists_ofLine ctx fun q hq => honly q hq ▸ hknown
  have hreplaced := (Substitution.of_ofLine hs).replaced Segment.shown fun _ => rfl
  obtain ⟨page, hpage, hreplaced⟩ := (Text.replaced_append_iff hbefore).1 hreplaced
  obtain ⟨t', rest, ⟨res, hbecomes, hshown⟩, rfl, hrest⟩ := (Text.replaced_raw_append_iff hp).1 hreplaced
  have hself := hrest.eq_self (Text.not_in_of_not_mem hafter)
  refine ⟨s, hs, hpage.trans ?_⟩
  cases hbecomes with
  | value hresolves => rw [← hshown, hself, hresolves.unique ht]; rfl
  | deferred hnone => exact absurd hnone ht.get?_ne_none

end PageTemplate
