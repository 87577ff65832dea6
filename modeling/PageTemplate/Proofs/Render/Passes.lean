/-
Substitution in two passes. A first context puts in what it knows, and what is left is source again, for a
second context to put in what it knows. If no brace opens outside the placeholders of the line, nor in
what the first context puts in, the second pass finds exactly the placeholders that the first one has left,
whatever stands beside them now; so the two passes make of the line what one pass makes of it under both
contexts together, in which the first one hides the second.
-/
import PageTemplate.Proofs.Fields
import PageTemplate.Proofs.Render.Expansion

namespace PageTemplate

/-! ## Two contexts -/

/-- The values of the context that is written over another one come first. -/
theorem Context.get?_update {ctx later : Context} (h : ctx.names.Nodup) (name : String) :
    (later.update ctx).get? name = (ctx.get? name).or (later.get? name) :=
  Fields.get?_update h

namespace Placeholder

variable {ctx ctx' : Context} {p : Placeholder} {t : Text} {res res' : Resolved}

theorem Resolves.of_get?_eq (h : p.Resolves ctx t) (hname : ctx'.get? p.name = ctx.get? p.name) :
    p.Resolves ctx' t := by
  obtain ⟨v, filters, hv, hfilters, rfl⟩ := h
  exact ⟨v, filters, hname.trans hv, hfilters, rfl⟩

theorem Becomes.of_get?_eq (h : p.Becomes ctx res) (hname : ctx'.get? p.name = ctx.get? p.name) :
    p.Becomes ctx' res := by
  cases h with
  | value h => exact .value (h.of_get?_eq hname)
  | deferred hnone hfilters => exact .deferred (hname.trans hnone) hfilters

theorem Becomes.unique (h : p.Becomes ctx res) (h' : p.Becomes ctx res') : res = res' := by
  have hresolve := resolve_eq_ok_iff.2 h
  rw [resolve_eq_ok_iff.2 h'] at hresolve
  exact (Except.ok.inj hresolve).symm

end Placeholder

namespace Substitution

variable {ctx later : Context} {line : Text} {first second whole : Substitution}

/-- Without names that the context knows, the line is its own source. -/
theorem Of.source_eq_self (h : Of ctx line first)
    (hunknown : ∀ p, Placeholder.In p line → ctx.get? p.name = none) : first.source = line := by
  refine h.source_replaced.eq_of_raw fun p t hp ht => ?_
  rcases ht with ht | ⟨-, hraw⟩
  · exact absurd (hunknown p hp) ht.get?_ne_none
  · exact hraw

/-- Whatever is written segment by segment is the same after two passes and after one. -/
theorem flatMap_of_two_passes (hdistinct : ctx.names.Nodup) (hbraced : line.Braced)
    (hvalues : ValuesAre ('\x7b' ∉ ·) ctx line) (hfirst : Of ctx line first)
    (hsecond : Of later first.source second) (hwhole : Of (later.update ctx) line whole)
    {f : Segment → Text} (hf : ∀ t, f (.text t) = t) :
    second.segments.flatMap f = whole.segments.flatMap f := by
  obtain ⟨-, -, hpass⟩ := (hfirst.source_leaves hvalues).two_passes hbraced
  refine ((hpass _ (hsecond.replaced f hf)).imp fun p t _ ht => ?_).unique (hwhole.replaced f hf)
    fun p t t' ht ht' => ?_
  · -- a name of the first context hides that of the second one, and all others are those of the second
    have hname : (later.update ctx).get? p.name = (ctx.get? p.name).or (later.get? p.name) :=
      Context.get?_update hdistinct p.name
    rcases ht with ht | ⟨hnone, res, hres, hshown⟩
    · obtain ⟨v, hv⟩ := Option.ne_none_iff_exists'.1 ht.get?_ne_none
      rw [hv, Option.some_or] at hname
      exact ⟨.value t, .value (ht.of_get?_eq (hname.trans hv.symm)), hf t⟩
    · rw [hnone, Option.none_or] at hname
      exact ⟨res, hres.of_get?_eq hname, hshown⟩
  · obtain ⟨res, hres, rfl⟩ := ht
    obtain ⟨res', hres', rfl⟩ := ht'
    rw [hres.unique hres']

/-- A line with known filters in which no brace opens outside its placeholders, and none in what the first
context puts in, can be substituted in one pass or in two: what is left after the first pass is substituted
under the second context to the text that the line has under both, of which the first one, with each of its
names once, counts where they have a name in common. The same holds of the source that is left then, and of
what a program emits. If the first context knows no name of the line, it leaves the line itself. -/
theorem two_passes_agree (ctx later : Context) (line : Text) (hdistinct : ctx.names.Nodup)
    (hbraced : line.Braced) (hknown : ∀ p, Placeholder.In p line → p.Known)
    (hvalues : ValuesAre ('\x7b' ∉ ·) ctx line) :
    ∃ first second whole, ofLine ctx line = .ok first ∧ ofLine later first.source = .ok second ∧
      ofLine (later.update ctx) line = .ok whole ∧
      second.text = whole.text ∧ second.source = whole.source ∧
      (∀ env, second.segments.flatMap (·.emitted env) = whole.segments.flatMap (·.emitted env)) ∧
      ((∀ p, Placeholder.In p line → ctx.get? p.name = none) → first.source = line) := by
  obtain ⟨first, hfirst⟩ := exists_ofLine ctx hknown
  have hof := of_ofLine hfirst
  obtain ⟨-, hleft, -⟩ := Renderer.source_of_braced hof hbraced hvalues
  obtain ⟨second, hsecond⟩ := exists_ofLine later fun p hp => hknown p (hleft p hp).1
  obtain ⟨whole, hwhole⟩ := exists_ofLine (later.update ctx) hknown
  have hsame : ∀ f : Segment → Text, (∀ t, f (.text t) = t) →
      second.segments.flatMap f = whole.segments.flatMap f := fun f hf =>
    flatMap_of_two_passes hdistinct hbraced hvalues hof (of_ofLine hsecond) (of_ofLine hwhole) hf
  exact ⟨first, second, whole, hfirst, hsecond, hwhole, hsame Segment.shown fun _ => rfl,
    hsame Segment.source fun _ => rfl, fun env => hsame (·.emitted env) fun _ => rfl,
    hof.source_eq_self⟩

/-- A value that closes braces which nothing has opened, put in front of a placeholder that only the second
context knows and of a brace of the line; a name of both contexts, and one of neither. -/
theorem two_passes_agree_of_neighbours :
    let line : Text := "\x7b\x7ba\x7d\x7d\x7b\x7bb.x | upper\x7d\x7d\x7d\x7b\x7bc\x7d\x7d".toList
    let ctx : Context := ⟨[("a", .str "\x7d\x7d")]⟩
    let later : Context := ⟨[("a", .str "-"), ("b", .map [("x", .str "v")])]⟩
    ctx.names.Nodup ∧ line.Braced ∧ (∀ p, Placeholder.In p line → p.Known) ∧
      ValuesAre ('\x7b' ∉ ·) ctx line ∧
      ∃ first second whole, ofLine ctx line = .ok first ∧ ofLine later first.source = .ok second ∧
        ofLine (later.update ctx) line = .ok whole ∧ second.text = whole.text ∧
        String.ofList second.text = "\x7d\x7dV\x7d\x7bc\x7d" := by
  intro line ctx later
  have hdistinct : ctx.names.Nodup := by decide +kernel
  have hbraced : Text.Braced line := by decide +kernel
  have hknown : ∀ p, Placeholder.In p line → p.Known := by
    simp only [← Text.mem_placeholders_iff]
    decide +kernel
  have hvalues : ValuesAre ('\x7b' ∉ ·) ctx line := by decide +kernel
  obtain ⟨first, second, whole, hfirst, hsecond, hwhole, htext, -⟩ :=
    two_passes_agree ctx later line hdistinct hbraced hknown hvalues
  have hshown : (ofLine (later.update ctx) line).toOption.map (String.ofList ∘ text) =
      some "\x7d\x7dV\x7d\x7bc\x7d" := by
    decide +kernel
  rw [hwhole] at hshown
  refine ⟨hdistinct, hbraced, hknown, hvalues, first, second, whole, hfirst, hsecond, hwhole, htext, ?_⟩
  rw [htext]
  exact Option.some.inj hshown

end Substitution

end PageTemplate
