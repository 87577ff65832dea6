/-
Placeholders by their grammar, and where they stand in a line. The scanner reads exactly the phrases
of the grammar, and each in one way. Behind its two opening braces a placeholder has no brace that
opens, so no placeholder begins inside another one; the pieces of a line are therefore its
placeholders, every one of them, and the text between.
-/
import Mathlib.Data.List.TakeWhile
import Mathlib.Tactic.Common
import PageTemplate.Line.Placeholder

namespace PageTemplate

namespace Placeholder

/-! ## The grammar -/

/-- A name: small letters and underscores, one at least. -/
structure IsName (t : Text) : Prop where
  nonempty : t ≠ []
  letters : ∀ c ∈ t, ('a' ≤ c ∧ c ≤ 'z') ∨ c = '_'

/-- Any number of spaces. -/
def Spaces (t : Text) : Prop := ∀ c ∈ t, c = ' '

/-- An attribute as it is written, with the dot in front of it. -/
inductive AttrForm : Option String → Text → Prop
  | none : AttrForm none []
  | dotted {a : Text} : IsName a → AttrForm (some (String.ofList a)) ('.' :: a)

/-- Filters as they are written, each behind a bar. -/
inductive FilterForm : List String → Text → Prop
  | none : FilterForm [] []
  | barred {s f s' raw : Text} {names : List String} :
      Spaces s → IsName f → Spaces s' → FilterForm names raw →
      FilterForm (String.ofList f :: names) ('|' :: (s ++ f ++ s' ++ raw))

/-- A placeholder whose text is a phrase of the grammar and whose parts are the ones in it. -/
inductive Written : Placeholder → Prop
  | braced {s n dotted s' listed : Text} {attr : Option String} {filters : List String} :
      Spaces s → IsName n → AttrForm attr dotted → Spaces s' → FilterForm filters listed →
      Written ⟨'{' :: '{' :: (s ++ n ++ dotted ++ s' ++ listed ++ ['}', '}']), String.ofList n, attr,
        filters⟩

/-- The placeholder of a name, without spaces. -/
def plain (name : String) : Placeholder := ⟨'{' :: '{' :: (name.toList ++ ['}', '}']), name, none, []⟩

theorem written_plain {name : String} (h : IsName name.toList) : (plain name).Written := by
  have hwritten := Written.braced (s := []) (List.forall_mem_nil _) h .none (List.forall_mem_nil _) .none
  simpa [plain] using hwritten

/-- The placeholder `p` stands in a text, between `before` and `after`. -/
structure At (p : Placeholder) (text before after : Text) : Prop where
  written : p.Written
  whole : text = before ++ p.raw ++ after

/-! ## The scanner reads the grammar -/

theorem isNameChar_iff {c : Char} : isNameChar c = true ↔ ('a' ≤ c ∧ c ≤ 'z') ∨ c = '_' := by
  simp [isNameChar]

instance (t : Text) : Decidable (IsName t) :=
  decidable_of_iff (t ≠ [] ∧ t.all isNameChar = true) <| by
    simp only [List.all_eq_true, isNameChar_iff]
    exact ⟨fun h => ⟨h.1, h.2⟩, fun h => ⟨h.nonempty, h.letters⟩⟩

theorem isName_of_name? {text n rest : Text} (h : name? text = some (n, rest)) : IsName n := by
  unfold name? at h
  split at h
  · cases h
  · rename_i hne
    cases h
    constructor
    · exact fun hnil => hne hnil
    · intro c hc
      exact isNameChar_iff.1 (List.mem_takeWhile_imp hc)

theorem spaces_takeWhile (text : Text) : Spaces (text.takeWhile isSpace) := by
  intro c hc
  have hspace := List.mem_takeWhile_imp hc
  simpa [isSpace] using hspace

theorem attrForm_of_attr? {text dotted rest : Text} {attr : Option String}
    (h : attr? text = some (attr, dotted, rest)) : AttrForm attr dotted := by
  unfold attr? at h
  split at h
  · obtain ⟨⟨a, rest'⟩, ha, heq⟩ := Option.map_eq_some_iff.1 h
    cases heq
    exact .dotted (isName_of_name? ha)
  · cases h; exact .none

theorem filterForm_of_filters? {text raw rest : Text} {names : List String}
    (h : filters? text = some (names, raw, rest)) : FilterForm names raw := by
  fun_induction filters? text generalizing names raw rest with
  | case1 => cases h
  | case2 text f after hf ih =>
    obtain ⟨⟨names', raw', rest'⟩, hrest, heq⟩ := Option.map_eq_some_iff.1 h
    cases heq
    have hform := FilterForm.barred (spaces_takeWhile text) (isName_of_name? hf)
      (spaces_takeWhile after) (ih hrest)
    simpa using hform
  | case3 => cases h; exact .none

/-- What is read as a placeholder is one. -/
theorem written_of_scan? {text after : Text} {p : Placeholder} (h : scan? text = some (p, after)) :
    p.Written := by
  unfold scan? at h
  split at h
  · rename_i text
    simp only [Option.bind_eq_bind, Option.bind_eq_some_iff] at h
    obtain ⟨⟨n, rest⟩, hname, ⟨attr, dotted, rest'⟩, hattr, ⟨filters, listed, close⟩, hlist, h⟩ := h
    dsimp only at hattr hlist h
    split at h
    · cases h
      have hform := Written.braced (spaces_takeWhile text) (isName_of_name? hname)
        (attrForm_of_attr? hattr) (spaces_takeWhile rest') (filterForm_of_filters? hlist)
      simpa using hform
    · cases h
  · cases h

theorem name?_append {n : Text} (hn : IsName n) {c : Char} (hc : isNameChar c = false) (rest : Text) :
    name? (n ++ c :: rest) = some (n, c :: rest) := by
  have hall : ∀ d ∈ n, isNameChar d = true := fun d hd => isNameChar_iff.2 (hn.letters d hd)
  have htake : (n ++ c :: rest).takeWhile isNameChar = n := by
    simp [List.takeWhile_append_of_pos hall, hc]
  have hdrop : (n ++ c :: rest).dropWhile isNameChar = c :: rest := by
    simp [List.dropWhile_append_of_pos hall, hc]
  unfold name?
  rw [htake, hdrop]
  split
  · exact absurd rfl hn.nonempty
  · rfl

theorem span_spaces {s : Text} (hs : Spaces s) {c : Char} (hc : c ≠ ' ') (rest : Text) :
    (s ++ c :: rest).takeWhile isSpace = s ∧ (s ++ c :: rest).dropWhile isSpace = c :: rest := by
  have hall : ∀ d ∈ s, isSpace d = true := fun d hd => by simp [isSpace, hs d hd]
  have hstop : isSpace c = false := by simp [isSpace, hc]
  constructor
  · simp [List.takeWhile_append_of_pos hall, hstop]
  · simp [List.dropWhile_append_of_pos hall, hstop]

/-- A name does not begin with a space. -/
theorem IsName.cons {n : Text} (hn : IsName n) : ∃ c t, n = c :: t ∧ c ≠ ' ' := by
  cases n with
  | nil => exact absurd rfl hn.nonempty
  | cons c t =>
    refine ⟨c, t, rfl, ?_⟩
    rintro rfl
    have hletter := hn.letters ' ' List.mem_cons_self
    revert hletter
    decide

/-- The spaces before a name are skipped, and no more. -/
theorem dropWhile_spaces_name {s n : Text} (hs : Spaces s) (hn : IsName n) (rest : Text) :
    (s ++ (n ++ rest)).takeWhile isSpace = s ∧ (s ++ (n ++ rest)).dropWhile isSpace = n ++ rest := by
  obtain ⟨c, t, rfl, hc⟩ := hn.cons
  exact span_spaces hs hc (t ++ rest)

/-- Behind spaces the filters, or the end, begin with a mark that no name has. -/
theorem filters_cons {names : List String} {raw : Text} (h : FilterForm names raw) (after : Text) :
    ∃ c rest, raw ++ '}' :: after = c :: rest ∧ (c = '|' ∨ c = '}') := by
  cases h with
  | none => exact ⟨'}', after, rfl, .inr rfl⟩
  | barred => exact ⟨'|', _, rfl, .inl rfl⟩

theorem spaces_filters_cons {s : Text} (hs : Spaces s) {names : List String} {raw : Text}
    (h : FilterForm names raw) (after : Text) :
    ∃ c rest, s ++ (raw ++ '}' :: after) = c :: rest ∧ (c = ' ' ∨ c = '|' ∨ c = '}') := by
  cases s with
  | nil =>
    obtain ⟨c, rest, hrest, hc⟩ := filters_cons h after
    exact ⟨c, rest, hrest, .inr hc⟩
  | cons c s => exact ⟨c, _, rfl, .inl (hs c List.mem_cons_self)⟩

theorem filters?_append {names : List String} {raw : Text} (h : FilterForm names raw) (after : Text) :
    filters? (raw ++ '}' :: after) = some (names, raw, '}' :: after) := by
  induction h with
  | none => rw [List.nil_append, filters?]; simp
  | @barred s f s' raw names hs hf hs' hform ih =>
    -- what stands behind the name of the filter ends it, and its spaces end before the next mark
    obtain ⟨c, rest, hrest, hc⟩ := spaces_filters_cons hs' hform after
    obtain ⟨d, rest', hrest', hd⟩ := filters_cons hform after
    have hspaces := dropWhile_spaces_name hs hf (s' ++ (raw ++ '}' :: after))
    have hname : name? (f ++ (s' ++ (raw ++ '}' :: after))) = some (f, s' ++ (raw ++ '}' :: after)) := by
      rw [hrest]
      exact name?_append hf (by rcases hc with rfl | rfl | rfl <;> decide) rest
    have hinner : (s' ++ (raw ++ '}' :: after)).takeWhile isSpace = s' ∧
        (s' ++ (raw ++ '}' :: after)).dropWhile isSpace = raw ++ '}' :: after := by
      rw [hrest']
      exact span_spaces hs' (by rcases hd with rfl | rfl <;> decide) rest'
    have htext : '|' :: (s ++ f ++ s' ++ raw) ++ '}' :: after =
        '|' :: (s ++ (f ++ (s' ++ (raw ++ '}' :: after)))) := by simp
    rw [htext, filters?]
    split
    · rename_i hnone
      rw [hspaces.2, hname] at hnone
      cases hnone
    · rename_i f' rest'' hsome
      rw [hspaces.2, hname] at hsome
      cases hsome
      rw [hinner.1, hinner.2, ih, hspaces.1]
      simp

theorem attr?_append {attr : Option String} {dotted : Text} (h : AttrForm attr dotted) {c : Char}
    (hc : c = ' ' ∨ c = '|' ∨ c = '}') (rest : Text) :
    attr? (dotted ++ c :: rest) = some (attr, dotted, c :: rest) := by
  cases h with
  | none => rcases hc with rfl | rfl | rfl <;> rfl
  | dotted ha =>
    have hstop : isNameChar c = false := by rcases hc with rfl | rfl | rfl <;> decide
    rw [List.cons_append, attr?, name?_append ha hstop]
    rfl

/-- A phrase of the grammar is read, whatever follows it. -/
theorem scan?_append {p : Placeholder} (h : p.Written) (after : Text) :
    scan? (p.raw ++ after) = some (p, after) := by
  cases h with
  | @braced s n dotted s' listed attr filters hs hn hattr hs' hfilters =>
    obtain ⟨c, rest, hrest, hc⟩ := spaces_filters_cons hs' hfilters ('}' :: after)
    obtain ⟨d, rest', hrest', hd⟩ := filters_cons hfilters ('}' :: after)
    have hname : ∃ e rest'', dotted ++ (s' ++ (listed ++ '}' :: '}' :: after)) = e :: rest'' ∧
        isNameChar e = false := by
      cases hattr with
      | none => exact ⟨c, rest, hrest, by rcases hc with rfl | rfl | rfl <;> decide⟩
      | dotted => exact ⟨'.', _, rfl, by decide⟩
    obtain ⟨e, rest'', hrest'', he⟩ := hname
    have h₁ := dropWhile_spaces_name hs hn (dotted ++ (s' ++ (listed ++ '}' :: '}' :: after)))
    have h₂ : name? (n ++ (dotted ++ (s' ++ (listed ++ '}' :: '}' :: after)))) =
        some (n, dotted ++ (s' ++ (listed ++ '}' :: '}' :: after))) := by
      rw [hrest'']
      exact name?_append hn he rest''
    have h₃ : attr? (dotted ++ (s' ++ (listed ++ '}' :: '}' :: after))) =
        some (attr, dotted, s' ++ (listed ++ '}' :: '}' :: after)) := by
      rw [hrest]
      exact attr?_append hattr hc rest
    have h₄ : (s' ++ (listed ++ '}' :: '}' :: after)).takeWhile isSpace = s' ∧
        (s' ++ (listed ++ '}' :: '}' :: after)).dropWhile isSpace = listed ++ '}' :: '}' :: after := by
      rw [hrest']
      exact span_spaces hs' (by rcases hd with rfl | rfl <;> decide) rest'
    have htext : '{' :: '{' :: (s ++ n ++ dotted ++ s' ++ listed ++ ['}', '}']) ++ after =
        '{' :: '{' :: (s ++ (n ++ (dotted ++ (s' ++ (listed ++ '}' :: '}' :: after))))) := by simp
    dsimp only
    rw [htext, scan?, h₁.2, h₂]
    simp [h₃, h₁.1, h₄.1, h₄.2, filters?_append hfilters ('}' :: after)]

/-- Reading a placeholder finds the phrases that a text begins with. -/
theorem scan?_eq_some_iff {text after : Text} {p : Placeholder} :
    scan? text = some (p, after) ↔ p.Written ∧ text = p.raw ++ after := by
  constructor
  · intro h
    exact ⟨written_of_scan? h, eq_append_of_scan? h⟩
  · rintro ⟨hp, rfl⟩
    exact scan?_append hp after

/-- A text begins with one placeholder at most. -/
theorem Written.unique {p q : Placeholder} (hp : p.Written) (hq : q.Written) {after after' : Text}
    (h : p.raw ++ after = q.raw ++ after') : p = q ∧ after = after' := by
  have hscan := scan?_append hp after
  rw [h, scan?_append hq after'] at hscan
  cases hscan
  exact ⟨rfl, rfl⟩

/-! ## The characters of a placeholder -/

/-- A character that a placeholder has behind its opening braces. -/
def Inner (c : Char) : Prop := (('a' ≤ c ∧ c ≤ 'z') ∨ c = '_') ∨ c ∈ [' ', '.', '|', '}']

theorem Inner.ne {c : Char} (h : Inner c) : c ≠ '{' ∧ c ≠ '%' ∧ c ≠ '\n' := by
  refine ⟨?_, ?_, ?_⟩ <;> rintro rfl <;> revert h <;> unfold Inner <;> decide

theorem IsName.inner {n : Text} (h : IsName n) : ∀ c ∈ n, Inner c := fun c hc => .inl (h.letters c hc)

theorem Spaces.inner {s : Text} (h : Spaces s) : ∀ c ∈ s, Inner c := by
  intro c hc
  rw [h c hc]
  exact .inr (by decide)

theorem AttrForm.inner {attr : Option String} {t : Text} (h : AttrForm attr t) : ∀ c ∈ t, Inner c := by
  cases h with
  | none => exact List.forall_mem_nil _
  | dotted ha => exact List.forall_mem_cons.2 ⟨.inr (by decide), ha.inner⟩

theorem FilterForm.inner {names : List String} {t : Text} (h : FilterForm names t) :
    ∀ c ∈ t, Inner c := by
  induction h with
  | none => exact List.forall_mem_nil _
  | barred hs hf hs' _ ih =>
    refine List.forall_mem_cons.2 ⟨.inr (by decide), ?_⟩
    simp only [List.forall_mem_append]
    exact ⟨⟨⟨hs.inner, hf.inner⟩, hs'.inner⟩, ih⟩

/-- A placeholder is two opening braces and characters that are none. -/
theorem Written.raw_eq {p : Placeholder} (h : p.Written) :
    ∃ inner, p.raw = '{' :: '{' :: inner ∧ inner ≠ [] ∧ ∀ c ∈ inner, Inner c := by
  cases h with
  | braced hs hn hattr hs' hfilters =>
    refine ⟨_, rfl, by simp, ?_⟩
    simp only [List.forall_mem_append]
    refine ⟨⟨⟨⟨⟨hs.inner, hn.inner⟩, hattr.inner⟩, hs'.inner⟩, hfilters.inner⟩, ?_⟩
    intro c hc
    have hclose : c = '}' := by simpa using hc
    rw [hclose]
    exact .inr (by decide)

/-- No placeholder begins inside another one. -/
theorem Written.apart {p q : Placeholder} (hp : p.Written) (hq : q.Written) {between after after' : Text}
    (h : p.raw ++ after = between ++ q.raw ++ after') (hne : between ≠ []) :
    p.raw.length ≤ between.length := by
  obtain ⟨inner, hraw, hinner, hchars⟩ := hp.raw_eq
  obtain ⟨inner', hraw', -, -⟩ := hq.raw_eq
  by_contra hlt
  rw [hraw, hraw'] at h
  rw [hraw] at hlt
  simp only [List.length_cons, Nat.not_le] at hlt
  -- the braces of the second phrase would lie among the inner characters of the first one
  have hbrace : '{' ∈ inner := by
    match between, hne, h, hlt with
    | [_], _, h, _ =>
      cases inner with
      | nil => exact absurd rfl hinner
      | cons c inner =>
        simp only [List.cons_append, List.nil_append, List.cons.injEq] at h
        rw [h.2.2.1]
        exact List.mem_cons_self
    | _ :: _ :: between, _, h, hlt =>
      simp only [List.cons_append, List.append_assoc, List.cons.injEq] at h
      have hlength : between.length < inner.length := by
        simp only [List.length_cons] at hlt
        omega
      have hget : (inner ++ after)[between.length]? = some '{' := by
        rw [h.2.2, List.getElem?_append_right (Nat.le_refl _), Nat.sub_self]
        rfl
      rw [List.getElem?_append_left hlength] at hget
      exact List.mem_of_getElem? hget
  exact (hchars _ hbrace).ne.1 rfl

/-- Two placeholders in a text, of which the first begins it, are the same one or lie apart. -/
theorem Written.eq_or_apart {p q : Placeholder} (hp : p.Written) (hq : q.Written)
    {between after after' : Text} (h : p.raw ++ after = between ++ q.raw ++ after') :
    (p = q ∧ between = [] ∧ after = after') ∨ p.raw.length ≤ between.length := by
  by_cases hbetween : between = []
  · subst hbetween
    obtain ⟨rfl, rfl⟩ := hp.unique hq h
    exact .inl ⟨rfl, rfl, rfl⟩
  · exact .inr (hp.apart hq h hbetween)

/-! ## Places in a text -/

/-- Where a text begins with a placeholder, the others stand behind that one. -/
theorem at_append_iff {p q : Placeholder} (hq : q.Written) {before after rest : Text} :
    p.At (q.raw ++ rest) before after ↔
      (p = q ∧ before = [] ∧ after = rest) ∨ ∃ b, before = q.raw ++ b ∧ p.At rest b after := by
  constructor
  · rintro ⟨hp, hwhole⟩
    rcases hq.eq_or_apart hp hwhole with ⟨rfl, rfl, rfl⟩ | hlength
    · exact .inl ⟨rfl, rfl, rfl⟩
    · rw [List.append_assoc] at hwhole
      obtain ⟨b, rfl⟩ :=
        List.prefix_of_prefix_length_le ⟨rest, rfl⟩ ⟨p.raw ++ after, hwhole.symm⟩ hlength
      rw [List.append_assoc] at hwhole
      exact .inr ⟨b, rfl, hp, by simpa using hwhole⟩
  · rintro (⟨rfl, rfl, rfl⟩ | ⟨b, rfl, hp, rfl⟩)
    · exact ⟨hq, rfl⟩
    · exact ⟨hp, by simp⟩

/-- Where no placeholder begins, all of them stand behind the first character. -/
theorem at_cons_iff {c : Char} {rest : Text}
    (hnone : ∀ q : Placeholder, q.Written → ∀ after, c :: rest ≠ q.raw ++ after)
    {p : Placeholder} {before after : Text} :
    p.At (c :: rest) before after ↔ ∃ b, before = c :: b ∧ p.At rest b after := by
  constructor
  · rintro ⟨hp, hwhole⟩
    cases before with
    | nil => exact absurd hwhole (hnone p hp after)
    | cons d b =>
      simp only [List.cons_append, List.cons.injEq] at hwhole
      exact ⟨b, by rw [hwhole.1], hp, hwhole.2⟩
  · rintro ⟨b, rfl, hp, rfl⟩
    exact ⟨hp, rfl⟩

theorem not_at_nil {p : Placeholder} {before after : Text} : ¬ p.At [] before after := by
  rintro ⟨hp, hwhole⟩
  obtain ⟨inner, hraw, -⟩ := hp.raw_eq
  rw [hraw] at hwhole
  simp at hwhole

theorem scan?_eq_none_iff {text : Text} :
    scan? text = none ↔ ∀ q : Placeholder, q.Written → ∀ after, text ≠ q.raw ++ after := by
  constructor
  · rintro h q hq after rfl
    rw [scan?_append hq after] at h
    cases h
  · intro h
    cases hscan : scan? text with
    | none => rfl
    | some found =>
      obtain ⟨hq, htext⟩ := scan?_eq_some_iff.1 hscan
      exact absurd htext (h _ hq _)

/-- Two placeholders of a text are the same one or lie apart. -/
theorem At.same_or_apart {p q : Placeholder} {text before after before' after' : Text}
    (hp : p.At text before after) (hq : q.At text before' after') :
    (p = q ∧ before = before' ∧ after = after') ∨
      (before ++ p.raw).length ≤ before'.length ∨ (before' ++ q.raw).length ≤ before.length := by
  have hwhole := hp.whole.symm.trans hq.whole
  rw [List.append_assoc, List.append_assoc] at hwhole
  rcases List.append_eq_append_iff.1 hwhole with ⟨b, rfl, hrest⟩ | ⟨b, rfl, hrest⟩
  · rw [← List.append_assoc] at hrest
    rcases hp.written.eq_or_apart hq.written hrest with ⟨rfl, rfl, rfl⟩ | hlength
    · exact .inl ⟨rfl, by simp, rfl⟩
    · refine .inr (.inl ?_)
      rw [List.length_append, List.length_append]
      omega
  · rw [← List.append_assoc] at hrest
    rcases hq.written.eq_or_apart hp.written hrest with ⟨rfl, rfl, rfl⟩ | hlength
    · exact .inl ⟨rfl, by simp, rfl⟩
    · refine .inr (.inr ?_)
      rw [List.length_append, List.length_append]
      omega

end Placeholder

/-! ## The pieces of a line -/

namespace Piece

/-- The placeholder `p` is one of the pieces, with `before` and `after` written on its two sides. -/
def Has (pieces : List Piece) (p : Placeholder) (before after : Text) : Prop :=
  ∃ l r, pieces = l ++ .placeholder p :: r ∧ l.flatMap raw = before ∧ r.flatMap raw = after

theorem not_has_nil {p : Placeholder} {before after : Text} : ¬ Has [] p before after := by
  rintro ⟨l, r, hpieces, -⟩
  simp at hpieces

theorem has_text_iff {t : Text} {pieces : List Piece} {p : Placeholder} {before after : Text} :
    Has (.text t :: pieces) p before after ↔ ∃ b, before = t ++ b ∧ Has pieces p b after := by
  constructor
  · rintro ⟨l, r, hpieces, rfl, rfl⟩
    cases l with
    | nil => cases hpieces
    | cons piece l =>
      obtain ⟨rfl, rfl⟩ := List.cons.inj hpieces
      exact ⟨l.flatMap raw, rfl, l, r, rfl, rfl, rfl⟩
  · rintro ⟨b, rfl, l, r, rfl, rfl, rfl⟩
    exact ⟨.text t :: l, r, rfl, rfl, rfl⟩

theorem has_placeholder_iff {q : Placeholder} {pieces : List Piece} {p : Placeholder}
    {before after : Text} :
    Has (.placeholder q :: pieces) p before after ↔
      (p = q ∧ before = [] ∧ after = pieces.flatMap raw) ∨
        ∃ b, before = q.raw ++ b ∧ Has pieces p b after := by
  constructor
  · rintro ⟨l, r, hpieces, rfl, rfl⟩
    cases l with
    | nil =>
      cases hpieces
      exact .inl ⟨rfl, rfl, rfl⟩
    | cons piece l =>
      obtain ⟨rfl, rfl⟩ := List.cons.inj hpieces
      exact .inr ⟨l.flatMap raw, rfl, l, r, rfl, rfl, rfl⟩
  · rintro (⟨rfl, rfl, rfl⟩ | ⟨b, rfl, l, r, rfl, rfl, rfl⟩)
    · exact ⟨[], pieces, rfl, rfl, rfl⟩
    · exact ⟨.placeholder q :: l, r, rfl, rfl, rfl⟩

/-- A character of text in front of pieces is one in front of what is written for them, if text is
written as it is. -/
theorem flatMap_cons {f : Piece → Text} (hf : ∀ t, f (.text t) = t) (c : Char) (pieces : List Piece) :
    (cons c pieces).flatMap f = c :: pieces.flatMap f := by
  unfold cons
  split
  · simp [hf]
  · simp [hf]

theorem has_cons_iff {c : Char} {pieces : List Piece} {p : Placeholder} {before after : Text} :
    Has (cons c pieces) p before after ↔ ∃ b, before = c :: b ∧ Has pieces p b after := by
  unfold cons
  split
  · rename_i t rest
    constructor
    · intro h
      obtain ⟨b, rfl, hb⟩ := has_text_iff.1 h
      exact ⟨t ++ b, rfl, has_text_iff.2 ⟨b, rfl, hb⟩⟩
    · rintro ⟨b, rfl, h⟩
      obtain ⟨b, rfl, hb⟩ := has_text_iff.1 h
      exact has_text_iff.2 ⟨b, rfl, hb⟩
  · exact has_text_iff

/-- The pieces of a line make up the line. -/
theorem flatMap_raw_ofLine (line : Text) : (ofLine line).flatMap raw = line := by
  fun_induction ofLine line with
  | case1 => rfl
  | case2 c line p after h ih =>
    rw [List.flatMap_cons, ih]
    exact (Placeholder.eq_append_of_scan? h).symm
  | case3 c line h ih => rw [flatMap_cons fun _ => rfl, ih]

/-- Pieces of text have something in them, and no two of them stand side by side. -/
inductive Alternating : List Piece → Prop
  | nil : Alternating []
  | placeholder {p : Placeholder} {pieces : List Piece} :
      Alternating pieces → Alternating (.placeholder p :: pieces)
  | text {t : Text} : t ≠ [] → Alternating [.text t]
  | textPlaceholder {t : Text} {p : Placeholder} {pieces : List Piece} :
      t ≠ [] → Alternating pieces → Alternating (.text t :: .placeholder p :: pieces)

theorem Alternating.cons {pieces : List Piece} (h : Alternating pieces) (c : Char) :
    Alternating (cons c pieces) := by
  cases h with
  | nil => exact .text (List.cons_ne_nil _ _)
  | placeholder h => exact .textPlaceholder (List.cons_ne_nil _ _) h
  | text => exact .text (List.cons_ne_nil _ _)
  | textPlaceholder _ h => exact .textPlaceholder (List.cons_ne_nil _ _) h

theorem alternating_ofLine (line : Text) : Alternating (ofLine line) := by
  fun_induction ofLine line with
  | case1 => exact .nil
  | case2 c line p after h ih => exact .placeholder ih
  | case3 c line h ih => exact ih.cons c

theorem Alternating.ne_nil {pieces : List Piece} (h : Alternating pieces) :
    ∀ t, .text t ∈ pieces → t ≠ [] := by
  induction h with
  | nil => intro t ht; cases ht
  | placeholder _ ih =>
    intro t ht
    rcases List.mem_cons.1 ht with heq | ht
    · cases heq
    · exact ih t ht
  | text hne =>
    intro t ht
    have heq := List.mem_singleton.1 ht
    cases heq
    exact hne
  | textPlaceholder hne _ ih =>
    intro t ht
    rcases List.mem_cons.1 ht with heq | ht
    · cases heq; exact hne
    · rcases List.mem_cons.1 ht with heq | ht
      · cases heq
      · exact ih t ht

theorem Alternating.not_adjacent {pieces : List Piece} (h : Alternating pieces) :
    ∀ l t u r, pieces ≠ l ++ .text t :: .text u :: r := by
  induction h with
  | nil => intro l t u r heq; simp at heq
  | placeholder _ ih =>
    intro l t u r heq
    cases l with
    | nil => cases heq
    | cons _ l => exact ih l t u r (List.cons.inj heq).2
  | text =>
    intro l t u r heq
    have hlength := congrArg List.length heq
    simp at hlength
    omega
  | textPlaceholder _ _ ih =>
    intro l t u r heq
    match l with
    | [] => cases heq
    | [_] => cases heq
    | _ :: _ :: l => exact ih l t u r (List.cons.inj (List.cons.inj heq).2).2

/-- The placeholders among the pieces of a line are those that stand in the line. -/
theorem has_ofLine_iff {line : Text} {p : Placeholder} {before after : Text} :
    Has (ofLine line) p before after ↔ p.At line before after := by
  fun_induction ofLine line generalizing before after with
  | case1 =>
    constructor
    · intro h; exact absurd h not_has_nil
    · intro h; exact absurd h Placeholder.not_at_nil
  | case2 c line q rest h ih =>
    obtain ⟨hq, htext⟩ := Placeholder.scan?_eq_some_iff.1 h
    rw [htext, has_placeholder_iff, Placeholder.at_append_iff hq, flatMap_raw_ofLine]
    simp only [ih]
  | case3 c line h ih =>
    rw [has_cons_iff, Placeholder.at_cons_iff (Placeholder.scan?_eq_none_iff.1 h)]
    simp only [ih]

/-- The pieces of a line make up the line; those of text are not empty and have placeholders between
them; and the others are the placeholders of the line, each at its place and none left out. For two
placeholders of a line never overlap, and a phrase of the grammar is that of one placeholder. -/
theorem ofLine_splits_at_placeholders (line : Text) :
    (ofLine line).flatMap raw = line ∧
    (∀ t, .text t ∈ ofLine line → t ≠ []) ∧
    (∀ l t u r, ofLine line ≠ l ++ .text t :: .text u :: r) ∧
    (∀ (p : Placeholder) before after, p.At line before after ↔ Has (ofLine line) p before after) ∧
    (∀ (p q : Placeholder) before after before' after',
      p.At line before after → q.At line before' after' →
      (p = q ∧ before = before' ∧ after = after') ∨
        (before ++ p.raw).length ≤ before'.length ∨ (before' ++ q.raw).length ≤ before.length) ∧
    ∀ p q : Placeholder, p.Written → q.Written → p.raw = q.raw → p = q := by
  refine ⟨flatMap_raw_ofLine line, (alternating_ofLine line).ne_nil, (alternating_ofLine line).not_adjacent,
    fun p before after => has_ofLine_iff.symm, fun p q before after before' after' hp hq => ?_,
    fun p q hp hq hraw => ?_⟩
  · exact hp.same_or_apart hq
  · have hwhole : p.raw ++ [] = q.raw ++ [] := by rw [hraw]
    exact (hp.unique hq hwhole).1

example : ofLine "\x7b\x7b\x7ba\x7d\x7d \x7b\x7bb".toList =
    [.text ['{'], .placeholder ⟨"\x7b\x7ba\x7d\x7d".toList, "a", none, []⟩,
      .text " \x7b\x7bb".toList] := by
  decide +kernel

end Piece

end PageTemplate
