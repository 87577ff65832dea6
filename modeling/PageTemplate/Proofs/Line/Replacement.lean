/-
A text with its placeholders replaced, each in its place, and every other character kept. Line breaks
do not matter to it: the lines of a text can be treated one by one. A text in which no brace opens
outside a placeholder can be treated in two passes, of which the second finds exactly the placeholders
that the first one has left.
-/
import PageTemplate.Proofs.Line.Occurrences

namespace PageTemplate

/-! ## Lines -/

namespace Text

theorem ofLines_cons_cons (line next : Text) (rest : List Text) :
    ofLines (line :: next :: rest) = line ++ '\n' :: ofLines (next :: rest) := by
  unfold ofLines
  rw [List.intercalate_cons_cons, List.append_assoc]
  rfl

/-- The lines of two texts, one after the other, are those of both with a line break between. -/
theorem ofLines_append {more : List Text} (hmore : more ≠ []) :
    ∀ {lines : List Text}, lines ≠ [] → ofLines (lines ++ more) = ofLines lines ++ '\n' :: ofLines more
  | [line], _ => by
    obtain ⟨next, rest, rfl⟩ := List.exists_cons_of_ne_nil hmore
    have hsingle : ofLines [line] = line := by simp [ofLines]
    rw [List.singleton_append, ofLines_cons_cons, hsingle]
  | line :: next :: lines, _ => by
    have ih := ofLines_append hmore (List.cons_ne_nil next lines)
    rw [List.cons_append, List.cons_append, ofLines_cons_cons, ← List.cons_append, ih, ofLines_cons_cons]
    simp

theorem ofLines_lines (text : Text) : ofLines text.lines = text := List.intercalate_splitOn '\n'

theorem lines_ofLines {lines : List Text} (hne : lines ≠ []) (h : ∀ line ∈ lines, '\n' ∉ line) :
    Text.lines (ofLines lines) = lines := List.splitOn_intercalate '\n' h hne

theorem lines_append_cons {first : Text} (hfirst : '\n' ∉ first) (rest : Text) :
    lines (first ++ '\n' :: rest) = first :: rest.lines := List.splitOn_append_cons_self_of_not_mem hfirst rest

/-- No line reaches over a line break. -/
theorem newline_not_mem_of_mem_lines {text line : Text} (h : line ∈ text.lines) : '\n' ∉ line := by
  by_cases hbreak : '\n' ∈ text
  · obtain ⟨first, rest, htext, hfirst⟩ := List.eq_append_cons_of_mem hbreak
    rw [htext, lines_append_cons hfirst] at h
    rcases List.mem_cons.1 h with rfl | hrest
    · exact hfirst
    · exact newline_not_mem_of_mem_lines hrest
  · rw [lines, List.splitOn_eq_singleton hbreak, List.mem_singleton] at h
    exact h ▸ hbreak
termination_by text.length
decreasing_by simp only [htext, List.length_append, List.length_cons]; omega

theorem lines_ne_nil (text : Text) : text.lines ≠ [] := List.splitOn_ne_nil '\n' text

/-- What is joined is a part of the whole. -/
theorem infix_intercalate (separator : Text) {part : Text} :
    ∀ {parts : List Text}, part ∈ parts → part <:+: separator.intercalate parts
  | [_], h => by
    have hpart := List.mem_singleton.1 h
    simp [hpart]
  | first :: next :: rest, h => by
    rw [List.intercalate_cons_cons]
    rcases List.mem_cons.1 h with rfl | h
    · exact ((List.prefix_append part separator).trans (List.prefix_append _ _)).isInfix
    · exact (infix_intercalate separator h).trans (List.suffix_append _ _).isInfix

/-- A character that is in no part, and not between parts, is not in what is joined. -/
theorem not_mem_intercalate {c : Char} {separator : Text} (hseparator : c ∉ separator) :
    ∀ {parts : List Text}, (∀ part ∈ parts, c ∉ part) → c ∉ separator.intercalate parts
  | [], _ => List.not_mem_nil
  | [part], h => by simpa using h part List.mem_cons_self
  | part :: next :: rest, h => by
    obtain ⟨hpart, hrest⟩ := List.forall_mem_cons.1 h
    rw [List.intercalate_cons_cons]
    exact List.not_mem_append (List.not_mem_append hpart hseparator) (not_mem_intercalate hseparator hrest)

/-- A line is a part of its text. -/
theorem exists_eq_of_mem_lines {text line : Text} (h : line ∈ text.lines) :
    ∃ before after, text = before ++ line ++ after := by
  obtain ⟨before, after, heq⟩ := infix_intercalate ['\n'] h
  rw [← ofLines, ofLines_lines] at heq
  exact ⟨before, after, heq.symm⟩

end Text

/-! ## Placeholders in a text -/

namespace Placeholder

/-- The placeholder stands somewhere in a text. -/
def In (p : Placeholder) (text : Text) : Prop := ∃ before after, p.At text before after

theorem In.written {p : Placeholder} {text : Text} (h : p.In text) : p.Written := by
  obtain ⟨_, _, hat⟩ := h
  exact hat.written

theorem In.of_part {p : Placeholder} {part : Text} (h : p.In part) (before after : Text) :
    p.In (before ++ part ++ after) := by
  obtain ⟨b, a, hp, rfl⟩ := h
  exact ⟨before ++ b, a ++ after, hp, by simp⟩

theorem In.append_left {p : Placeholder} {text : Text} (h : p.In text) (before : Text) :
    p.In (before ++ text) := by
  have hpart := h.of_part before []
  rwa [List.append_nil] at hpart

theorem Written.in_append {p : Placeholder} (h : p.Written) (after : Text) : p.In (p.raw ++ after) :=
  ⟨[], after, h, rfl⟩

/-- A placeholder begins with a brace. -/
theorem Written.not_append_eq {p : Placeholder} (h : p.Written) {c : Char} (hc : c ≠ '{')
    (text after : Text) : c :: text ≠ p.raw ++ after := by
  obtain ⟨inner, hraw, -⟩ := h.raw_eq
  rw [hraw]
  intro heq
  exact hc (List.cons.inj heq).1

theorem in_cons_iff {p : Placeholder} {c : Char} (hc : c ≠ '{') {text : Text} :
    p.In (c :: text) ↔ p.In text := by
  constructor
  · rintro ⟨before, after, h⟩
    obtain ⟨b, -, hb⟩ := (at_cons_iff fun q hq after => hq.not_append_eq hc text after).1 h
    exact ⟨b, after, hb⟩
  · exact fun h => h.append_left [c]

theorem in_append_iff {p : Placeholder} {t : Text} (ht : '{' ∉ t) {text : Text} :
    p.In (t ++ text) ↔ p.In text := by
  induction t with
  | nil => rfl
  | cons c t ih =>
    have hc : c ≠ '{' := fun h => ht (h ▸ List.mem_cons_self)
    rw [List.cons_append, in_cons_iff hc, ih fun h => ht (List.mem_cons_of_mem _ h)]

theorem in_raw_append_iff {p q : Placeholder} (hq : q.Written) {text : Text} :
    p.In (q.raw ++ text) ↔ p = q ∨ p.In text := by
  constructor
  · rintro ⟨before, after, h⟩
    rcases (at_append_iff hq).1 h with ⟨rfl, -, -⟩ | ⟨b, -, hb⟩
    · exact .inl rfl
    · exact .inr ⟨b, after, hb⟩
  · rintro (rfl | h)
    · exact hq.in_append text
    · exact h.append_left q.raw

theorem Written.newline_not_mem {p : Placeholder} (h : p.Written) : '\n' ∉ p.raw := by
  obtain ⟨inner, hraw, -, hinner⟩ := h.raw_eq
  rw [hraw]
  intro hmem
  simp only [List.mem_cons] at hmem
  rcases hmem with hmem | hmem | hmem
  · revert hmem; decide
  · revert hmem; decide
  · exact (hinner _ hmem).ne.2.2 rfl

end Placeholder

theorem Piece.mem_ofLine_iff {p : Placeholder} {line : Text} :
    .placeholder p ∈ Piece.ofLine line ↔ p.In line := by
  constructor
  · intro h
    obtain ⟨l, r, hpieces⟩ := List.append_of_mem h
    exact ⟨_, _, Piece.has_ofLine_iff.1 ⟨l, r, hpieces, rfl, rfl⟩⟩
  · rintro ⟨before, after, h⟩
    obtain ⟨l, r, hpieces, -⟩ := Piece.has_ofLine_iff.2 h
    rw [hpieces]
    simp

/-- The placeholders that stand in a text, in their order. -/
def Text.placeholders (text : Text) : List Placeholder :=
  (Piece.ofLine text).filterMap fun
    | .placeholder p => some p
    | .text _ => none

@[simp] theorem Text.mem_placeholders_iff {p : Placeholder} {text : Text} :
    p ∈ Text.placeholders text ↔ p.In text := by
  rw [← Piece.mem_ofLine_iff]
  unfold placeholders
  constructor
  · intro h
    obtain ⟨piece, hpiece, heq⟩ := List.mem_filterMap.1 h
    cases piece with
    | text => cases heq
    | placeholder => cases heq; exact hpiece
  · intro h
    exact List.mem_filterMap.2 ⟨.placeholder p, h, rfl⟩

namespace Text

/-! ## Replacing placeholders -/

/-- `page` is a text in which every placeholder is replaced by a text that `shows` gives for it, and
all other characters are kept. -/
inductive Replaced (shows : Placeholder → Text → Prop) : Text → Text → Prop
  | nil : Replaced shows [] []
  | kept {c : Char} {text page : Text} :
      (∀ p : Placeholder, p.Written → ∀ after, c :: text ≠ p.raw ++ after) →
      Replaced shows text page → Replaced shows (c :: text) (c :: page)
  | placeholder {p : Placeholder} {after t page : Text} :
      p.Written → shows p t → Replaced shows after page → Replaced shows (p.raw ++ after) (t ++ page)

variable {shows shows' : Placeholder → Text → Prop} {text page : Text}

theorem replaced_raw_append_iff {p : Placeholder} (hp : p.Written) :
    Replaced shows (p.raw ++ text) page ↔
      ∃ t rest, shows p t ∧ page = t ++ rest ∧ Replaced shows text rest := by
  constructor
  · intro h
    generalize htext : p.raw ++ text = whole at h
    cases h with
    | nil =>
      obtain ⟨inner, hraw, -⟩ := hp.raw_eq
      rw [hraw] at htext
      cases htext
    | kept hnone => exact absurd htext.symm (hnone p hp text)
    | placeholder hq ht h =>
      obtain ⟨rfl, rfl⟩ := hp.unique hq htext
      exact ⟨_, _, ht, rfl, h⟩
  · rintro ⟨t, rest, ht, rfl, h⟩
    exact .placeholder hp ht h

theorem replaced_cons_iff {c : Char}
    (hnone : ∀ p : Placeholder, p.Written → ∀ after, c :: text ≠ p.raw ++ after) :
    Replaced shows (c :: text) page ↔ ∃ rest, page = c :: rest ∧ Replaced shows text rest := by
  constructor
  · intro h
    generalize htext : c :: text = whole at h
    cases h with
    | nil => cases htext
    | kept _ h => cases htext; exact ⟨_, rfl, h⟩
    | placeholder hp => exact absurd htext (hnone _ hp _)
  · rintro ⟨rest, rfl, h⟩
    exact .kept hnone h

theorem replaced_append_iff {t : Text} (ht : '{' ∉ t) :
    Replaced shows (t ++ text) page ↔ ∃ rest, page = t ++ rest ∧ Replaced shows text rest := by
  induction t generalizing page with
  | nil => simp
  | cons c t ih =>
    have hc : c ≠ '{' := fun h => ht (h ▸ List.mem_cons_self)
    have hrest : '{' ∉ t := fun h => ht (List.mem_cons_of_mem _ h)
    rw [List.cons_append, replaced_cons_iff fun p hp after => hp.not_append_eq hc _ after]
    constructor
    · rintro ⟨rest, rfl, h⟩
      obtain ⟨rest', rfl, htext⟩ := (ih hrest).1 h
      exact ⟨rest', rfl, htext⟩
    · rintro ⟨rest, rfl, h⟩
      exact ⟨t ++ rest, rfl, (ih hrest).2 ⟨rest, rfl, h⟩⟩

namespace Replaced

theorem imp (h : Replaced shows text page) (himp : ∀ p t, p.In text → shows p t → shows' p t) :
    Replaced shows' text page := by
  induction h with
  | nil => exact .nil
  | @kept c text page hnone _ ih =>
    exact .kept hnone (ih fun p t hp => himp p t (hp.append_left [c]))
  | @placeholder p after t page hp ht _ ih =>
    exact .placeholder hp (himp p t (hp.in_append after) ht) (ih fun q t hq => himp q t (hq.append_left _))

/-- Where each placeholder is shown in one way, so is the text. -/
theorem unique {page' : Text} (h : Replaced shows text page) (h' : Replaced shows text page')
    (hshows : ∀ p t t', shows p t → shows p t' → t = t') : page = page' := by
  induction h generalizing page' with
  | nil =>
    generalize htext : ([] : Text) = whole at h'
    cases h' with
    | nil => rfl
    | kept => cases htext
    | @placeholder p after _ _ hp =>
      have hat : p.At [] [] after := ⟨hp, htext⟩
      exact absurd hat Placeholder.not_at_nil
  | kept hnone _ ih =>
    obtain ⟨rest, rfl, hrest⟩ := (replaced_cons_iff hnone).1 h'
    rw [ih hrest]
  | placeholder hp ht _ ih =>
    obtain ⟨t', rest, ht', rfl, hrest⟩ := (replaced_raw_append_iff hp).1 h'
    rw [ih hrest, hshows _ _ _ ht ht']

/-- A text whose placeholders all show what is written for them stays as it is. -/
theorem eq_of_raw (h : Replaced shows text page) (hraw : ∀ p t, p.In text → shows p t → t = p.raw) :
    page = text := by
  induction h with
  | nil => rfl
  | @kept c text page _ _ ih => rw [ih fun p t hp => hraw p t (hp.append_left [c])]
  | @placeholder p after t page hp ht _ ih =>
    rw [hraw p t (hp.in_append after) ht, ih fun q t hq => hraw q t (hq.append_left _)]

/-- A text without placeholders stays as it is. -/
theorem eq_self (h : Replaced shows text page) (hnone : ∀ p, ¬ Placeholder.In p text) : page = text :=
  h.eq_of_raw fun p _ hp => absurd hp (hnone p)

/-- A placeholder that stands in what another one is shown as stands on the page. -/
theorem in_page (h : Replaced shows text page) {p q : Placeholder} (hp : p.In text)
    (hshows : ∀ t, shows p t → q.In t) : q.In page := by
  induction h with
  | nil =>
    obtain ⟨before, after, hat⟩ := hp
    exact absurd hat Placeholder.not_at_nil
  | @kept c text page hnone _ ih =>
    obtain ⟨before, after, hat⟩ := hp
    obtain ⟨b, -, hb⟩ := (Placeholder.at_cons_iff hnone).1 hat
    exact (ih ⟨b, after, hb⟩).append_left [c]
  | @placeholder p' after t page hp' ht _ ih =>
    rcases (Placeholder.in_raw_append_iff hp').1 hp with rfl | hp
    · have hpart := (hshows t ht).of_part [] page
      simpa using hpart
    · exact (ih hp).append_left t

/-- A character that is neither in the text nor in what its placeholders are shown as, is not on the page. -/
theorem not_mem {c : Char} (h : Replaced shows text page) (hshows : ∀ p t, p.In text → shows p t → c ∉ t)
    (htext : c ∉ text) : c ∉ page := by
  induction h with
  | nil => exact htext
  | @kept d text page _ _ ih =>
    have hrest := ih (fun p t hp => hshows p t (hp.append_left [d])) (List.not_mem_of_not_mem_cons htext)
    exact List.not_mem_cons_of_ne_of_not_mem (List.ne_of_not_mem_cons htext) hrest
  | @placeholder p after t page hp ht _ ih =>
    refine List.not_mem_append (hshows p t (hp.in_append after) ht) (ih (fun q t hq => ?_) fun hafter => ?_)
    · exact hshows q t (hq.append_left p.raw)
    · exact htext (List.mem_append_right _ hafter)

/-- No placeholder reaches over a line break, so two texts can be treated on their own. -/
theorem append_line {a b a' b' : Text} (ha : Replaced shows a a') (hb : Replaced shows b b') :
    Replaced shows (a ++ '\n' :: b) (a' ++ '\n' :: b') := by
  induction ha with
  | nil => exact .kept (fun p hp after => hp.not_append_eq (by decide) b after) hb
  | @kept c text page hnone _ ih =>
    refine .kept (fun p hp after heq => ?_) ih
    -- a placeholder at the start of the longer text would end before the line break
    have hwhole : (c :: text) ++ '\n' :: b = p.raw ++ after := heq
    rcases List.append_eq_append_iff.1 hwhole with ⟨m, hm, hrest⟩ | ⟨m, hm, -⟩
    · cases m with
      | nil => exact hnone p hp [] (by rw [hm]; simp)
      | cons d m =>
        obtain ⟨rfl, -⟩ := List.cons.inj hrest
        exact hp.newline_not_mem (by rw [hm]; simp)
    · exact hnone p hp m hm
  | placeholder hp ht _ ih =>
    rw [List.append_assoc, List.append_assoc]
    exact .placeholder hp ht ih

/-- A text can be treated line by line. -/
theorem ofLines : ∀ {lines pages : List Text}, List.Forall₂ (Replaced shows) lines pages →
    Replaced shows (Text.ofLines lines) (Text.ofLines pages)
  | [], [], .nil => .nil
  | [_], [_], .cons h .nil => by simpa [Text.ofLines] using h
  | _ :: _ :: _, _ :: _ :: _, .cons h (.cons h' rest) => by
    rw [ofLines_cons_cons, ofLines_cons_cons]
    exact h.append_line (ofLines (.cons h' rest))

end Replaced

/-! ## Texts without loose braces -/

/-- A text made of placeholders and of characters that are no opening braces. -/
inductive Braced : Text → Prop
  | nil : Braced []
  | plain {c : Char} {text : Text} : c ≠ '{' → Braced text → Braced (c :: text)
  | placeholder {p : Placeholder} {after : Text} : p.Written → Braced after → Braced (p.raw ++ after)

namespace Braced

theorem append {t : Text} (ht : '{' ∉ t) (h : Braced text) : Braced (t ++ text) := by
  induction t with
  | nil => exact h
  | cons c t ih =>
    have hc : c ≠ '{' := fun heq => ht (heq ▸ List.mem_cons_self)
    exact .plain hc (ih fun hmem => ht (List.mem_cons_of_mem _ hmem))

theorem concat {a b : Text} (ha : Braced a) (hb : Braced b) : Braced (a ++ b) := by
  induction ha with
  | nil => exact hb
  | plain hc _ ih => exact .plain hc ih
  | placeholder hp _ ih =>
    rw [List.append_assoc]
    exact .placeholder hp ih

/-- No placeholder reaches from a text without loose braces into what follows it. -/
theorem in_concat_iff {a b : Text} (ha : Braced a) {p : Placeholder} : p.In (a ++ b) ↔ p.In a ∨ p.In b := by
  induction ha with
  | nil =>
    refine ⟨.inr, fun h => h.resolve_left ?_⟩
    rintro ⟨before, after, hat⟩
    exact Placeholder.not_at_nil hat
  | plain hc _ ih => rw [List.cons_append, Placeholder.in_cons_iff hc, Placeholder.in_cons_iff hc, ih]
  | placeholder hq _ ih =>
    rw [List.append_assoc, Placeholder.in_raw_append_iff hq, Placeholder.in_raw_append_iff hq, ih, or_assoc]

theorem of_raw_append {p : Placeholder} (hp : p.Written) (h : Braced (p.raw ++ text)) : Braced text := by
  generalize htext : p.raw ++ text = whole at h
  cases h with
  | nil =>
    obtain ⟨inner, hraw, -⟩ := hp.raw_eq
    rw [hraw] at htext
    cases htext
  | plain hc => exact absurd htext.symm (hp.not_append_eq hc _ text)
  | placeholder hq h =>
    obtain ⟨rfl, rfl⟩ := hp.unique hq htext
    exact h

theorem of_cons {c : Char} (h : Braced (c :: text))
    (hnone : ∀ p : Placeholder, p.Written → ∀ after, c :: text ≠ p.raw ++ after) :
    c ≠ '{' ∧ Braced text := by
  generalize htext : c :: text = whole at h
  cases h with
  | nil => cases htext
  | plain hc h => cases htext; exact ⟨hc, h⟩
  | placeholder hp => exact absurd htext (hnone _ hp _)

/-- The braces in such a text never open a tag. -/
theorem no_tag (h : Braced text) : ∀ before after, text ≠ before ++ '{' :: '%' :: after := by
  induction h with
  | nil => intro before after heq; simp at heq
  | plain hc _ ih =>
    intro before after heq
    cases before with
    | nil => exact hc (List.cons.inj heq).1
    | cons d before => exact ih before after (List.cons.inj heq).2
  | @placeholder p rest hp _ ih =>
    intro before after heq
    obtain ⟨inner, hraw, hne, hinner⟩ := hp.raw_eq
    rw [hraw] at heq
    match before with
    | [] => simp at heq
    | [_] =>
      obtain ⟨c, inner, rfl⟩ := List.exists_cons_of_ne_nil hne
      simp only [List.cons_append, List.nil_append, List.cons.injEq] at heq
      exact (hinner c List.mem_cons_self).ne.2.1 heq.2.2.1
    | _ :: _ :: before =>
      simp only [List.cons_append, List.cons.injEq] at heq
      -- the tag lies behind the placeholder, or its brace among the inner characters
      rcases List.append_eq_append_iff.1 heq.2.2 with ⟨m, -, hm⟩ | ⟨m, hm, hrest⟩
      · exact ih m after hm
      · cases m with
        | nil => exact ih [] after (by rw [List.nil_append] at hrest ⊢; exact hrest.symm)
        | cons d m =>
          obtain ⟨rfl, -⟩ := List.cons.inj hrest
          exact (hinner '{' (by rw [hm]; simp)).ne.1 rfl

theorem append_line_iff {a b : Text} : Braced (a ++ '\n' :: b) ↔ Braced a ∧ Braced b := by
  constructor
  · intro h
    generalize htext : a ++ '\n' :: b = whole at h
    induction h generalizing a with
    | nil => simp at htext
    | @plain c text hc h ih =>
      cases a with
      | nil =>
        obtain ⟨-, rfl⟩ := List.cons.inj htext
        exact ⟨.nil, h⟩
      | cons d a =>
        obtain ⟨rfl, hrest⟩ := List.cons.inj htext
        obtain ⟨ha, hb⟩ := ih hrest
        exact ⟨.plain hc ha, hb⟩
    | @placeholder p after hp _ ih =>
      rcases List.append_eq_append_iff.1 htext with ⟨m, hm, hrest⟩ | ⟨m, rfl, hrest⟩
      · -- the line break would be a part of the placeholder
        cases m with
        | nil =>
          obtain ⟨-, hb⟩ := ih (a := []) hrest
          refine ⟨?_, hb⟩
          rw [List.append_nil] at hm
          rw [← hm, ← List.append_nil p.raw]
          exact .placeholder hp .nil
        | cons d m =>
          obtain ⟨rfl, -⟩ := List.cons.inj hrest
          exact absurd (by rw [hm]; simp) hp.newline_not_mem
      · obtain ⟨ha, hb⟩ := ih hrest.symm
        exact ⟨.placeholder hp ha, hb⟩
  · rintro ⟨ha, hb⟩
    exact ha.concat (.plain (by decide) hb)

theorem of_mem_ofLines {line : Text} :
    ∀ {lines : List Text}, Braced (Text.ofLines lines) → line ∈ lines → Braced line
  | [_], h, hline => by
    rw [List.mem_singleton.1 hline]
    simpa [Text.ofLines] using h
  | _ :: _ :: _, h, hline => by
    rw [ofLines_cons_cons] at h
    obtain ⟨hfirst, hrest⟩ := append_line_iff.1 h
    rcases List.mem_cons.1 hline with rfl | hline
    · exact hfirst
    · exact of_mem_ofLines hrest hline

theorem of_mem_lines {line : Text} (h : Braced text) (hline : line ∈ text.lines) : Braced line :=
  of_mem_ofLines (by rwa [ofLines_lines]) hline

end Braced

/-- What stands in a text outside its placeholders. -/
def loose (text : Text) : Text :=
  (Piece.ofLine text).flatMap fun
    | .text t => t
    | .placeholder _ => []

theorem braced_iff : Braced text ↔ '{' ∉ loose text := by
  unfold loose
  fun_induction Piece.ofLine text with
  | case1 => simp [Braced.nil]
  | case2 c line p after h ih =>
    obtain ⟨hp, htext⟩ := Placeholder.scan?_eq_some_iff.1 h
    rw [htext, List.flatMap_cons, List.nil_append, ← ih]
    constructor
    · exact fun hbraced => hbraced.of_raw_append hp
    · exact .placeholder hp
  | case3 c line h ih =>
    rw [Piece.flatMap_cons fun _ => rfl, List.mem_cons, not_or, ← ih]
    constructor
    · intro hbraced
      obtain ⟨hc, hrest⟩ := hbraced.of_cons (Placeholder.scan?_eq_none_iff.1 h)
      exact ⟨hc.symm, hrest⟩
    · rintro ⟨hc, hrest⟩
      exact .plain (Ne.symm hc) hrest

instance (text : Text) : Decidable (Braced text) := decidable_of_iff _ braced_iff.symm

/-- The first of two passes: a placeholder is replaced by a text without opening braces, or it is left
as it is written. -/
def Leaves (shows : Placeholder → Text → Prop) (left : Placeholder → Prop) (p : Placeholder) (t : Text) :
    Prop :=
  (shows p t ∧ '{' ∉ t) ∨ (left p ∧ t = p.raw)

/-- After a first pass over a text without loose braces there are no loose braces either, the
placeholders are those that were left, and a second pass over it completes the first one. -/
theorem Replaced.two_passes {left : Placeholder → Prop} {source : Text}
    (h : Replaced (Leaves shows left) text source) (htext : Braced text) :
    Braced source ∧ (∀ p, Placeholder.In p source → p.In text ∧ left p) ∧
      ∀ page, Replaced shows' source page →
        Replaced (fun p t => shows p t ∨ (left p ∧ shows' p t)) text page := by
  induction h with
  | nil =>
    refine ⟨.nil, fun p hp => ?_, fun page h => ?_⟩
    · obtain ⟨_, _, hp⟩ := hp
      exact absurd hp Placeholder.not_at_nil
    · exact h.imp fun p t hp _ => by
        obtain ⟨_, _, hp⟩ := hp
        exact absurd hp Placeholder.not_at_nil
  | @kept c text source hnone _ ih =>
    obtain ⟨hc, htext⟩ := htext.of_cons hnone
    obtain ⟨hbraced, hin, hpass⟩ := ih htext
    refine ⟨.plain hc hbraced, fun p hp => ?_, fun page h => ?_⟩
    · obtain ⟨hp, hleft⟩ := hin p ((Placeholder.in_cons_iff hc).1 hp)
      exact ⟨hp.append_left [c], hleft⟩
    · obtain ⟨rest, rfl, hrest⟩ := (replaced_cons_iff fun p hp after => hp.not_append_eq hc _ after).1 h
      exact .kept hnone (hpass rest hrest)
  | @placeholder p after t source hp ht _ ih =>
    obtain ⟨hbraced, hin, hpass⟩ := ih (htext.of_raw_append hp)
    rcases ht with ⟨hshows, ht⟩ | ⟨hleft, rfl⟩
    · refine ⟨hbraced.append ht, fun q hq => ?_, fun page h => ?_⟩
      · obtain ⟨hq, hleft⟩ := hin q ((Placeholder.in_append_iff ht).1 hq)
        exact ⟨hq.append_left _, hleft⟩
      · obtain ⟨rest, rfl, hrest⟩ := (replaced_append_iff ht).1 h
        exact .placeholder hp (.inl hshows) (hpass rest hrest)
    · refine ⟨.placeholder hp hbraced, fun q hq => ?_, fun page h => ?_⟩
      · rcases (Placeholder.in_raw_append_iff hp).1 hq with rfl | hq
        · exact ⟨hp.in_append after, hleft⟩
        · obtain ⟨hq, hleft⟩ := hin q hq
          exact ⟨hq.append_left _, hleft⟩
      · obtain ⟨t', rest, ht', rfl, hrest⟩ := (replaced_raw_append_iff hp).1 h
        exact .placeholder hp (.inr ⟨hleft, ht'⟩) (hpass rest hrest)

end Text

end PageTemplate
