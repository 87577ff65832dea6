/-
Substitution of a line, said placeholder by placeholder: each becomes a text or is deferred, as the
context has its name or not, and nothing else in the line changes. So the line as it is shown, the line
as source, and the line as a program emits it are all replacements of its placeholders.
-/
import PageTemplate.Line.Substitution
import PageTemplate.Proofs.Line.Replacement
import PageTemplate.Proofs.Outcome

namespace PageTemplate

/-! ## Filters by name -/

/-- Some filter has this name. -/
def Filter.IsNamed (name : String) : Prop := ∃ filter : Filter, filter.name = name

instance (name : String) : Decidable (Filter.IsNamed name) :=
  decidable_of_iff (name ∈ Filter.all.map Filter.name) <| by
    have hall : ∀ filter : Filter, filter ∈ Filter.all := by
      intro filter
      cases filter <;> decide
    simp only [Filter.IsNamed, List.mem_map, hall, true_and]

theorem Filter.named_eq_ok_iff {name : String} {filter : Filter} :
    Filter.named name = .ok filter ↔ filter.name = name := by
  constructor
  · intro h
    unfold Filter.named at h
    split at h
    · rename_i hfind
      cases h
      simpa using List.find?_some hfind
    · cases h
  · rintro rfl
    cases filter <;> rfl

theorem Filter.mapM_named_eq_ok_iff :
    ∀ {names : List String} {filters : List Filter},
      names.mapM Filter.named = .ok filters ↔ filters.map Filter.name = names
  | names, filters => by
    rw [mapM_eq_ok_iff]
    simp only [Filter.named_eq_ok_iff]
    constructor
    · intro h
      induction h with
      | nil => rfl
      | cons hname _ ih => rw [List.map_cons, hname, ih]
    · rintro rfl
      induction filters with
      | nil => exact .nil
      | cons filter filters ih => exact .cons rfl ih

/-! ## One placeholder -/

namespace Placeholder

variable {ctx : Context} {p : Placeholder}

/-- All filters of the placeholder are known. -/
def Known (p : Placeholder) : Prop := ∀ name ∈ p.filters, ∃ filter : Filter, filter.name = name

/-- The text that a placeholder stands for in a context that has its name: the text of the value, or of
its attribute if it has that, through the filters. -/
def Resolves (ctx : Context) (p : Placeholder) (t : Text) : Prop :=
  ∃ v filters, ctx.get? p.name = some v ∧ filters.map Filter.name = p.filters ∧
    v.through p.attr filters = t

/-- What a page shows in the place of a placeholder: the text that it stands for, or, if its name is
not in the context, its own text without the first and the last character. -/
inductive Shows (ctx : Context) (p : Placeholder) : Text → Prop
  | value {t : Text} : p.Resolves ctx t → Shows ctx p t
  | stripped : ctx.get? p.name = none → Shows ctx p p.raw.tail.dropLast

/-- What becomes of a placeholder when its line is substituted. -/
inductive Becomes (ctx : Context) (p : Placeholder) : Resolved → Prop
  | value {t : Text} : p.Resolves ctx t → Becomes ctx p (.value t)
  | deferred {filters : List Filter} :
      ctx.get? p.name = none → filters.map Filter.name = p.filters →
      Becomes ctx p (.deferred ⟨p.raw, p.name, p.attr, filters⟩)

instance (p : Placeholder) : Decidable p.Known :=
  inferInstanceAs (Decidable (∀ name ∈ p.filters, Filter.IsNamed name))

theorem Known.exists_filters (h : p.Known) :
    ∃ filters : List Filter, filters.map Filter.name = p.filters := by
  have hnamed : ∀ name ∈ p.filters, ∃ filter, Filter.named name = .ok filter := by
    intro name hname
    obtain ⟨filter, hfilter⟩ := h name hname
    exact ⟨filter, Filter.named_eq_ok_iff.2 hfilter⟩
  obtain ⟨filters, hfilters⟩ := exists_mapM_eq_ok hnamed
  exact ⟨filters, Filter.mapM_named_eq_ok_iff.1 hfilters⟩

theorem Resolves.unique {t t' : Text} (h : p.Resolves ctx t) (h' : p.Resolves ctx t') : t = t' := by
  obtain ⟨v, filters, hv, hfilters, rfl⟩ := h
  obtain ⟨v', filters', hv', hfilters', rfl⟩ := h'
  rw [hv] at hv'
  cases hv'
  have hsame := Filter.mapM_named_eq_ok_iff.2 hfilters
  rw [Filter.mapM_named_eq_ok_iff.2 hfilters'] at hsame
  cases hsame
  rfl

theorem Resolves.get?_ne_none {t : Text} (h : p.Resolves ctx t) : ctx.get? p.name ≠ none := by
  obtain ⟨v, _, hv, -⟩ := h
  rw [hv]
  exact Option.some_ne_none v

theorem Shows.unique {t t' : Text} (h : p.Shows ctx t) (h' : p.Shows ctx t') : t = t' := by
  cases h with
  | value h =>
    cases h' with
    | value h' => exact h.unique h'
    | stripped hnone => exact absurd hnone h.get?_ne_none
  | stripped hnone =>
    cases h' with
    | value h' => exact absurd hnone h'.get?_ne_none
    | stripped => rfl

theorem resolve_eq_ok_iff {resolved : Resolved} :
    Piece.resolve ctx (.placeholder p) = .ok resolved ↔ p.Becomes ctx resolved := by
  rw [Piece.resolve, bind_eq_ok]
  simp only [Filter.mapM_named_eq_ok_iff]
  constructor
  · rintro ⟨filters, hfilters, h⟩
    split at h
    · rename_i v hv
      cases h
      exact .value ⟨v, filters, hv, hfilters, rfl⟩
    · rename_i hnone
      cases h
      exact .deferred hnone hfilters
  · intro h
    cases h with
    | value h =>
      obtain ⟨v, filters, hv, hfilters, rfl⟩ := h
      refine ⟨filters, hfilters, ?_⟩
      rw [hv]
      rfl
    | @deferred filters hnone hfilters =>
      refine ⟨filters, hfilters, ?_⟩
      rw [hnone]
      rfl

/-- The text that a placeholder stands for, if it stands for one. -/
def value? (ctx : Context) (p : Placeholder) : Option Text :=
  match Piece.resolve ctx (.placeholder p) with
  | .ok resolved => resolved.value?
  | .error _ => none

theorem value?_eq_some_iff {t : Text} : p.value? ctx = some t ↔ p.Resolves ctx t := by
  have hbecomes : p.Resolves ctx t ↔ Piece.resolve ctx (.placeholder p) = .ok (.value t) := by
    rw [resolve_eq_ok_iff]
    constructor
    · exact .value
    · intro h
      cases h with
      | value h => exact h
  rw [hbecomes, value?]
  split
  · rename_i resolved hresolved
    rw [hresolved]
    cases resolved <;> simp [Resolved.value?]
  · rename_i herror
    rw [herror]
    simp

theorem Known.exists_resolve (h : p.Known) :
    ∃ resolved, Piece.resolve ctx (.placeholder p) = .ok resolved := by
  obtain ⟨filters, hfilters⟩ := h.exists_filters
  cases hv : ctx.get? p.name with
  | some v => exact ⟨_, resolve_eq_ok_iff.2 (.value ⟨v, filters, hv, hfilters, rfl⟩)⟩
  | none => exact ⟨_, resolve_eq_ok_iff.2 (.deferred hv hfilters)⟩

end Placeholder

/-- A context shows a text in one way. -/
theorem Text.Replaced.shows_iff {ctx : Context} {text page : Text}
    (h : Replaced (Placeholder.Shows ctx) text page) (page' : Text) :
    Replaced (Placeholder.Shows ctx) text page' ↔ page' = page := by
  constructor
  · intro h'
    exact h'.unique h fun p t t' ht ht' => ht.unique ht'
  · rintro rfl
    exact h

/-! ## Segments -/

namespace Segment

/-- Joining neighbouring texts changes nothing that is written segment by segment. -/
theorem flatMap_joined {f : Segment → Text} (hf : ∀ t, f (.text t) = t) :
    ∀ segments : List Segment, (joined segments).flatMap f = segments.flatMap f
  | [] => rfl
  | .deferred d :: rest => by
    rw [joined, List.flatMap_cons, List.flatMap_cons, flatMap_joined hf rest]
    nofun
  | .text t :: rest => by
    have ih := flatMap_joined hf rest
    rw [joined, List.flatMap_cons, ← ih]
    split
    · rename_i u more hjoined
      rw [hjoined]
      simp [hf]
    · rfl

theorem mem_of_mem_joined {d : Deferred} :
    ∀ {segments : List Segment}, .deferred d ∈ joined segments → .deferred d ∈ segments
  | .deferred e :: rest, h => by
    rw [joined] at h
    · rcases List.mem_cons.1 h with heq | h
      · exact heq ▸ List.mem_cons_self
      · exact List.mem_cons_of_mem _ (mem_of_mem_joined h)
    · nofun
  | .text t :: rest, h => by
    refine List.mem_cons_of_mem _ (mem_of_mem_joined ?_)
    rw [joined] at h
    split at h
    · rename_i u more hjoined
      rcases List.mem_cons.1 h with heq | h
      · cases heq
      · rw [hjoined]
        exact List.mem_cons_of_mem _ h
    · rcases List.mem_cons.1 h with heq | h
      · cases heq
      · exact h

end Segment

/-! ## One line -/

/-- The pieces of a line that have been looked up in a context. -/
def Piece.Looked (ctx : Context) (pieces : List Piece) (resolved : List Resolved) : Prop :=
  List.Forall₂ (fun piece res => piece.resolve ctx = .ok res) pieces resolved

/-- A character of text in front of the pieces is one in front of what has become of them. -/
theorem Piece.Looked.of_cons {ctx : Context} {c : Char} {pieces : List Piece} {resolved : List Resolved}
    (h : Looked ctx (cons c pieces) resolved) {f : Segment → Text} (hf : ∀ t, f (.text t) = t) :
    ∃ resolved', Looked ctx pieces resolved' ∧
      resolved.flatMap (f ∘ Resolved.segment) = c :: resolved'.flatMap (f ∘ Resolved.segment) := by
  unfold Piece.cons at h
  split at h
  · rename_i t rest
    cases h with
    | cons ht hrest =>
      cases ht
      exact ⟨.plain t :: _, .cons rfl hrest, by simp [Resolved.segment, hf]⟩
  · cases h with
    | cons ht hrest =>
      cases ht
      exact ⟨_, hrest, by simp [Resolved.segment, hf]⟩

/-- What is written for the pieces of a line, each text as it is, is a replacement of its
placeholders. -/
theorem Piece.Looked.replaced {ctx : Context} {f : Segment → Text} (hf : ∀ t, f (.text t) = t)
    {line : Text} {resolved : List Resolved} (h : Looked ctx (ofLine line) resolved) :
    Text.Replaced (fun p t => ∃ res, p.Becomes ctx res ∧ f res.segment = t) line
      (resolved.flatMap (f ∘ Resolved.segment)) := by
  fun_induction ofLine line generalizing resolved with
  | case1 =>
    cases h
    exact .nil
  | case2 c line p after hscan ih =>
    obtain ⟨hp, htext⟩ := Placeholder.scan?_eq_some_iff.1 hscan
    cases h with
    | cons hres hrest =>
      rw [htext, List.flatMap_cons]
      exact .placeholder hp ⟨_, Placeholder.resolve_eq_ok_iff.1 hres, rfl⟩ (ih hrest)
  | case3 c line hscan ih =>
    obtain ⟨resolved', hlooked, heq⟩ := h.of_cons hf
    rw [heq]
    exact .kept (Placeholder.scan?_eq_none_iff.1 hscan) (ih hlooked)

namespace Substitution

/-- A substitution is that of a line in a context. -/
structure Of (ctx : Context) (line : Text) (s : Substitution) : Prop where
  /-- Written segment by segment, it is the line with its placeholders replaced. -/
  replaced : ∀ f : Segment → Text, (∀ t, f (.text t) = t) →
    Text.Replaced (fun p t => ∃ res, p.Becomes ctx res ∧ f res.segment = t) line (s.segments.flatMap f)
  /-- What is deferred is a placeholder of the line. -/
  deferred : ∀ d, .deferred d ∈ s.segments → ∃ p : Placeholder, p.In line ∧ p.Becomes ctx (.deferred d)
  /-- It has several lines only if the text of a placeholder has. -/
  multiline : s.multiline = true →
    ∃ (p : Placeholder) (t : Text), p.In line ∧ p.Resolves ctx t ∧ '\n' ∈ t

theorem exists_mem_of_looked {ctx : Context} {line : Text} {resolved : List Resolved}
    (h : Piece.Looked ctx (Piece.ofLine line) resolved) {res : Resolved} (hres : res ∈ resolved)
    (hplain : ∀ t, res ≠ .plain t) : ∃ p : Placeholder, p.In line ∧ p.Becomes ctx res := by
  obtain ⟨piece, hpiece, hresolve⟩ := exists_mem_of_mapM h hres
  cases piece with
  | text t =>
    cases hresolve
    exact absurd rfl (hplain t)
  | placeholder p => exact ⟨p, Piece.mem_ofLine_iff.1 hpiece, Placeholder.resolve_eq_ok_iff.1 hresolve⟩

theorem of_ofLine {ctx : Context} {line : Text} {s : Substitution} (h : ofLine ctx line = .ok s) :
    Of ctx line s := by
  unfold ofLine at h
  obtain ⟨resolved, hresolved, heq⟩ := bind_eq_ok.1 h
  have hlooked : Piece.Looked ctx (Piece.ofLine line) resolved := mapM_eq_ok_iff.1 hresolved
  cases heq
  refine ⟨fun f hf => ?_, fun d hd => ?_, fun hmultiline => ?_⟩
  · rw [Segment.flatMap_joined hf, List.flatMap_map]
    exact hlooked.replaced hf
  · obtain ⟨res, hres, heq⟩ := List.mem_map.1 (Segment.mem_of_mem_joined hd)
    cases res with
    | plain | value => cases heq
    | deferred => cases heq; exact exists_mem_of_looked hlooked hres nofun
  · obtain ⟨t, ht, hbreak⟩ := List.any_eq_true.1 hmultiline
    obtain ⟨res, hres, heq⟩ := List.mem_filterMap.1 ht
    cases res with
    | plain | deferred => cases heq
    | value =>
      cases heq
      obtain ⟨p, hp, hbecomes⟩ := exists_mem_of_looked hlooked hres nofun
      cases hbecomes with
      | value hresolves => exact ⟨p, t, hp, hresolves, of_decide_eq_true hbreak⟩

/-- The text of a placeholder with a line break in it makes several lines. -/
theorem multiline_of_resolves {ctx : Context} {line : Text} {s : Substitution} (h : ofLine ctx line = .ok s)
    {p : Placeholder} (hp : p.In line) {t : Text} (ht : p.Resolves ctx t) (hbreak : '\n' ∈ t) :
    s.multiline = true := by
  unfold ofLine at h
  obtain ⟨resolved, hresolved, heq⟩ := bind_eq_ok.1 h
  obtain ⟨res, hres, hpiece⟩ :=
    exists_right_of_forall₂ (mapM_eq_ok_iff.1 hresolved) (Piece.mem_ofLine_iff.2 hp)
  rw [Placeholder.resolve_eq_ok_iff.2 (.value ht)] at hpiece
  cases hpiece
  cases heq
  exact List.any_eq_true.2 ⟨t, List.mem_filterMap.2 ⟨_, hres, rfl⟩, decide_eq_true hbreak⟩

/-- A line whose filters are known is substituted. -/
theorem exists_ofLine (ctx : Context) {line : Text} (h : ∀ p, Placeholder.In p line → p.Known) :
    ∃ s, ofLine ctx line = .ok s := by
  have hpieces : ∀ piece ∈ Piece.ofLine line, ∃ res, piece.resolve ctx = .ok res := by
    intro piece hpiece
    cases piece with
    | text t => exact ⟨.plain t, rfl⟩
    | placeholder p => exact (h p (Piece.mem_ofLine_iff.1 hpiece)).exists_resolve
  obtain ⟨resolved, hresolved⟩ := exists_mapM_eq_ok hpieces
  exact ⟨_, bind_eq_ok.2 ⟨resolved, hresolved, rfl⟩⟩

/-- The source of a substituted line: what the context knows is put in, and the other placeholders are
as they were. -/
theorem Of.source_replaced {ctx : Context} {line : Text} {s : Substitution} (h : Of ctx line s) :
    Text.Replaced (fun p t => p.Resolves ctx t ∨ (ctx.get? p.name = none ∧ t = p.raw)) line s.source := by
  refine (h.replaced Segment.source fun _ => rfl).imp fun p t _ ht => ?_
  obtain ⟨res, hres, rfl⟩ := ht
  cases hres with
  | value hresolves => exact .inl hresolves
  | deferred hnone => exact .inr ⟨hnone, rfl⟩

/-- The source of a line has line breaks in it only if a value that was put in has. -/
theorem newline_not_mem_source {ctx : Context} {line : Text} {s : Substitution} (h : ofLine ctx line = .ok s)
    (hline : '\n' ∉ line) (hsingle : s.multiline = false) : '\n' ∉ s.source := by
  refine (of_ofLine h).source_replaced.not_mem (fun p t hp ht hbreak => ?_) hline
  rcases ht with ht | ⟨-, rfl⟩
  · rw [multiline_of_resolves h hp ht hbreak] at hsingle
    cases hsingle
  · exact hp.written.newline_not_mem hbreak

end Substitution

end PageTemplate
