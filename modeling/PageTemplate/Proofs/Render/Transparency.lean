/-
Includes of plain pages. If a page has no opening brace, a directive for it between texts without any is as
good as the page itself. Three things have to be known for that of the inner rendering, which is not the
one that made the page: it may nest less deep, it is inside another template, and the time has been looked
at before. And of the outer one, that the cache has nothing new under its name, and that what it compiles
stands on the page as it is.
-/
import PageTemplate.Proofs.Render.Depth
import PageTemplate.Proofs.Render.Includes
import PageTemplate.Proofs.Render.Plain

namespace PageTemplate

/-! ## Inside another template -/

/-- The errors of a template that would be inside itself. -/
inductive TemplateError.OfCycle : TemplateError → Prop
  | cycle (chain : List String) (name : String) : OfCycle (.inclusion name (.cycle chain name))

/-- No path of the include graph from the template `name` leads to `outer`, which is another one. -/
def Source.Avoids (source : Source) (outer name : String) : Prop :=
  ∀ names, source.Path name names → outer ∉ name :: names

namespace Source.Avoids

variable {source : Source} {outer name : String}

theorem ne (h : source.Avoids outer name) : name ≠ outer := by
  rintro rfl
  exact h [] (path_nil name) List.mem_cons_self

theorem of_inclusion (h : source.Avoids outer name) {text : String} (htext : source name = .ok text)
    {m : String} (hm : m ∈ SourcePart.inclusions text.toList) : source.Avoids outer m := by
  intro names hpath hmem
  exact h (m :: names) ((path_cons htext).2 ⟨hm, hpath⟩) (List.mem_cons_of_mem _ hmem)

end Source.Avoids

namespace Renderer

open RenderState (Later)
open TemplateError (OfCycle)

variable {r : Renderer} {outer name : String} {n : Nat}

theorem checkInclusion_inside {chain : List String} (hname : name ≠ outer) :
    SameUnless OfCycle (checkInclusion chain name) (checkInclusion (outer :: chain) name) := by
  unfold checkInclusion
  by_cases hempty : name = ""
  · rw [if_pos hempty, if_pos hempty]
    exact .refl _
  · rw [if_neg hempty, if_neg hempty]
    by_cases hchain : name ∈ chain
    · rw [if_pos hchain]
      exact .inl ⟨_, rfl, .cycle chain name⟩
    · rw [if_neg hchain, if_neg fun hmem => (List.mem_cons.1 hmem).elim hname hchain]
      exact .refl _

/-- A template that does not lead to `outer` is rendered inside `outer` as it is outside. -/
theorem included_inside :
    ∀ {levels : Nat} {chain : List String} {name : String}, r.source.Avoids outer name →
      Agree OfCycle (Later n) (r.included levels chain name) (r.included levels (outer :: chain) name)
  | 0, chain, name, h => by
    rw [included, included]
    refine (Agree.lift (checkInclusion_inside h.ne)).bind fun _ => ?_
    exact Agree.lift (.refl (.error _))
  | levels + 1, chain, name, h => by
    rw [included, included]
    refine (Agree.lift (checkInclusion_inside h.ne)).bind fun _ => ?_
    cases htext : r.source name with
    | error e => exact Agree.lift (.refl (.error e))
    | ok text =>
      refine renderSource_agree (fun filled => page_agree rfl fun _ _ => .refl _) fun m hm => ?_
      exact included_inside (h.of_inclusion htext hm)

/-! ## What is left in the cache -/

/-- The second state has the same entry of `outer` in its cache. -/
def SameEntry (outer : String) (s t : RenderState) : Prop :=
  Fields.get? outer t.cache = Fields.get? outer s.cache

theorem SameEntry.refl (s : RenderState) : SameEntry outer s s := rfl

theorem SameEntry.trans (s t u : RenderState) (h : SameEntry outer s t) (h' : SameEntry outer t u) :
    SameEntry outer s u :=
  Eq.trans h' h

theorem page_sameEntry (hname : name ≠ outer) (source : Text) :
    Leads (SameEntry outer) (r.page name source) := by
  intro s
  have hentry : Fields.get? outer (s.cache.statements name source r.options.bufferName).2 =
      Fields.get? outer s.cache :=
    Cache.get?_statements_of_ne (q := ⟨source, r.options.bufferName⟩) hname.symm
  rw [run_page]
  split <;> exact hentry

/-- Rendering a template that does not lead to `outer` leaves the entry of `outer` as it is. -/
theorem included_sameEntry {levels : Nat} {chain : List String} {name : String}
    (h : r.source.Avoids outer name) : Leads (SameEntry outer) (r.included levels chain name) :=
  included_leads SameEntry.refl SameEntry.trans (r.source.Avoids outer) (fun _ => rfl)
    (fun _ _ havoids htext _ hm => havoids.of_inclusion htext hm)
    (fun _ havoids filled => page_sameEntry havoids.ne filled) h

/-! ## Plain pages -/

/-- A source without braces is its own page. -/
theorem page_of_no_brace {source : Text} {s : RenderState}
    (hstatements : (s.cache.statements name source r.options.bufferName).1 =
      Statement.ofLines r.options.bufferName source.lines) (hsource : '{' ∉ source) :
    ∃ s', (r.page name source).run s = (.ok source, s') := by
  have hpart : ∀ part : Text, part <:+: source → '{' ∉ part := fun part hpart hmem =>
    hsource (hpart.subset hmem)
  have hplaceholder : ∀ p, ¬ Placeholder.In p source := by
    rintro p ⟨before, after, hp⟩
    obtain ⟨inner, hraw, -⟩ := hp.written.raw_eq
    exact hpart p.raw ⟨before, after, hp.whole.symm⟩ (by rw [hraw]; exact List.mem_cons_self)
  have htagless : Tagless source := by
    rintro line hline ⟨hopen, -⟩
    obtain ⟨before, after, heq⟩ := Text.exists_eq_of_mem_lines hline
    exact hpart _ (hopen.trans ⟨before, after, heq.symm⟩) (by decide)
  have hlines : ∀ line ∈ source.lines, ∃ t, Text.Replaced (Placeholder.Shows s.context) line t ∧
      LineWrites s.context (r.expand s.context r.options.maxIncludeDepth) r.options.bufferName line t := by
    intro line hline
    have hnone : ∀ p, ¬ Placeholder.In p line := fun p hp => hplaceholder p (hp.of_mem_lines hline)
    exact exists_lineWrites_of_single
      ⟨fun p hp => absurd hp (hnone p), fun p hp => absurd hp (hnone p)⟩
      (fun p t hp => absurd hp (hnone p)) _
  obtain ⟨statements, steps, program, page, hcompiled, hsteps, hprogram, hreplaced, hwrites⟩ :=
    exists_program_of_lines htagless hlines
  obtain rfl := hreplaced.eq_self hplaceholder
  exact page_eq_ok (hstatements.trans hcompiled) (bind_eq_ok.2 ⟨steps, hsteps, hprogram⟩) hwrites.written

/-! ## Directives for plain pages -/

/-- A source with one directive is compiled with the page in place of the directive. -/
theorem run_filledPage_of_one {inner : List String → String → Render Text} {chain : List String}
    {source before t after page : Text} {s s' : RenderState}
    (hparts : SourcePart.ofSource source = [.text before, .inclusion t, .text after])
    (hinner : (inner (chain ++ [name]) (String.ofList t)).run s = (.ok page, s')) :
    (r.filledPage inner chain name source).run s = (r.page name (before ++ page ++ after)).run s' := by
  have hfilled : r.filledPage inner chain name source =
      (inner (chain ++ [name]) (String.ofList t) >>= fun page => r.page name (before ++ page ++ after)) := by
    unfold filledPage
    rw [hparts]
    simp [SourcePart.fill]
  rw [hfilled, run_bind, hinner]

/-- The page of a template is the same inside another template that it does not lead to, where one more
level of includes is allowed and the clock, which stands still, has been looked at. -/
theorem run_included_inside {m : Nat} {s s' : RenderState} {text : String} {page : Text}
    (hclock : ∀ i, s.clock.reading i = s.clock.reading 0) (hempty : name ≠ "")
    (havoids : r.source.Avoids outer name) (htext : r.source name = .ok text)
    (hpage : ((r.withDepth m).renderRoot name text.toList).run s = (.ok page, s')) :
    ∃ t, ((r.withDepth (m + 1)).included (m + 1) [outer] name).run s.refreshed = (.ok page, t) := by
  -- the bound is raised from the same state; only then the chain and the clock can be changed
  obtain ⟨t₁, hdeep, -⟩ := (renderSource_agree (page_withDepth (Nat.le_succ m) name) fun _ _ =>
    included_withDepth (Nat.le_succ m) (Nat.le_refl m) _ _).run_eq_ok (RenderState.later_zero_iff.2 rfl) hpage
  rw [run_renderSource] at hdeep
  have hchain : Agree OfCycle (Later 1)
      ((r.withDepth (m + 1)).filledPage ((r.withDepth (m + 1)).included m) [] name text.toList)
      ((r.withDepth (m + 1)).filledPage ((r.withDepth (m + 1)).included m) [outer] name text.toList) :=
    filledPage_agree (fun _ => page_agree rfl fun _ _ => .refl _) fun _ hinclusion =>
      included_inside (r := r.withDepth (m + 1)) (havoids.of_inclusion htext hinclusion)
  obtain ⟨t₂, hinside, -⟩ := hchain.run_eq_ok (RenderState.later_refreshed hclock) hdeep
  have hcheck : checkInclusion [outer] name = .ok () :=
    checkInclusion_eq_ok.2 ⟨hempty, fun hmem => havoids.ne (List.mem_singleton.1 hmem)⟩
  refine ⟨t₂, ?_⟩
  rw [included, hcheck]
  show ((liftM (r.source name) >>= _ : Render Text).run s.refreshed) = _
  rw [htext]
  exact (run_renderSource s.refreshed).trans hinside

/-- A directive for a template whose page has no opening brace is transparent: between texts without opening
braces it stands for the page as it is, if one more level of includes is allowed, the clock stands still,
and the template does not lead back to the one that asks for it. -/
theorem renderFile_includes_plain_page (r : Renderer) (m : Nat) (outer name before after page : String)
    (s s' : RenderState) (hformat : r.options.formatOutput = false)
    (hclock : ∀ i, s.clock.reading i = s.clock.reading 0)
    (hcache : s.cache.Distinguishes ⟨(before ++ page ++ after).toList, r.options.bufferName⟩)
    (hne : outer ≠ name) (hempty : name ≠ "") (htrim : Text.trim name.toList = name.toList)
    (hmark : ¬ SourcePart.closing <:+: name.toList) (hbefore : '{' ∉ before.toList)
    (hafter : '{' ∉ after.toList)
    (hsource : r.source outer = .ok (before ++ "\x7b% include " ++ name ++ " %\x7d" ++ after))
    (hpath : ∀ names, r.source.Path name names → outer ∉ names)
    (hpage : ((r.withDepth m).renderFile name).run s = (.ok page, s')) (hbrace : '{' ∉ page.toList) :
    ∃ s'', ((r.withDepth (m + 1)).renderFile outer).run s = (.ok (before ++ page ++ after), s'') := by
  have havoids : r.source.Avoids outer name := fun names h hmem =>
    (List.mem_cons.1 hmem).elim hne (hpath names h)
  obtain ⟨text, htext, hroot⟩ := (run_renderFile_eq_ok_iff (r := r.withDepth m) hformat).1 hpage
  obtain ⟨t, hinner⟩ := run_included_inside hclock hempty havoids htext hroot
  -- the cache knows the outer template as well as it did before, so it compiles what stands there now
  have hentry : SameEntry outer s.refreshed t := by
    have hleads : Leads (SameEntry outer) ((r.withDepth (m + 1)).included (m + 1) [outer] name) :=
      included_sameEntry havoids
    have hend := hleads s.refreshed
    rwa [hinner] at hend
  have hstatements : (t.cache.statements outer (before ++ page ++ after).toList r.options.bufferName).1 =
      Statement.ofLines r.options.bufferName (Text.lines (before ++ page ++ after).toList) :=
    (Cache.statements_congr (q := ⟨_, r.options.bufferName⟩) hentry).trans (hcache.statements_eq outer)
  have hfree : '{' ∉ (before ++ page ++ after).toList := by simp [hbefore, hbrace, hafter]
  obtain ⟨s'', hfilled⟩ : ∃ s'', ((r.withDepth (m + 1)).page outer (before ++ page ++ after).toList).run t =
      (.ok (before ++ page ++ after).toList, s'') :=
    page_of_no_brace hstatements hfree
  have hparts : SourcePart.ofSource (before ++ "\x7b% include " ++ name ++ " %\x7d" ++ after).toList =
      [.text before.toList, .inclusion name.toList, .text after.toList] := by
    have hone := SourcePart.ofSource_of_one hbefore hafter hmark
    rw [htrim] at hone
    rw [← hone]
    simp [SourcePart.opening, SourcePart.closing]
  refine ⟨s'', (run_renderFile_eq_ok_iff (r := r.withDepth (m + 1)) hformat).2 ⟨_, hsource, ?_⟩⟩
  rw [renderRoot, run_renderSource, run_filledPage_of_one hparts (by rw [String.ofList_toList]; exact hinner),
    ← String.toList_append, ← String.toList_append]
  exact hfilled

/-- A template that includes another one and shows a value, included in the middle of a line. -/
theorem renderFile_includes_plain_page_of_two_levels :
    let r : Renderer :=
      { options := {},
        source := Library.source
          [("page", "<\x7b% include part %\x7d>"), ("part", "\x7b\x7bv\x7d\x7d\x7b% include leaf %\x7d"),
            ("leaf", "!")] }
    let s : RenderState :=
      { context := ⟨[("v", .str "x")]⟩, clock := ⟨fun _ => ⟨0, "", ""⟩, 0⟩, cache := [], programs := [] }
    (∃ s', ((r.withDepth 1).renderFile "part").run s = (.ok "x!", s')) ∧
      (∀ names, r.source.Path "part" names → "page" ∉ names) ∧
      ∃ s', ((r.withDepth 2).renderFile "page").run s = (.ok "<x!>", s') := by
  intro r s
  have hpart : ∃ s', ((r.withDepth 1).renderFile "part").run s = (.ok "x!", s') := by
    have hpage : (((r.withDepth 1).renderFile "part").run s).1.toOption = some "x!" := by decide +kernel
    rcases hrun : ((r.withDepth 1).renderFile "part").run s with ⟨_ | page, s'⟩ <;> rw [hrun] at hpage
    · cases hpage
    · cases hpage
      exact ⟨s', rfl⟩
  have hpath : ∀ names, r.source.Path "part" names → "page" ∉ names := by
    have hpart : SourcePart.inclusions "\x7b\x7bv\x7d\x7d\x7b% include leaf %\x7d".toList = ["leaf"] := by
      decide +kernel
    have hleaf : SourcePart.inclusions "!".toList = [] := by decide +kernel
    have hfirst : ∀ {m rest}, r.source.Path "part" (m :: rest) → m = "leaf" ∧ r.source.Path m rest := by
      intro m rest h
      have hstep := (Source.path_cons (rfl : r.source "part" = .ok _)).1 h
      rw [hpart] at hstep
      exact ⟨List.mem_singleton.1 hstep.1, hstep.2⟩
    intro names h
    match names with
    | [] => exact List.not_mem_nil
    | [m] =>
      rw [(hfirst h).1]
      decide
    | m :: m' :: rest =>
      obtain ⟨rfl, hrest⟩ := hfirst h
      have hstep := (Source.path_cons (rfl : r.source "leaf" = .ok _)).1 hrest
      rw [hleaf] at hstep
      cases hstep.1
  obtain ⟨s', hrun⟩ := hpart
  refine ⟨⟨s', hrun⟩, hpath, ?_⟩
  exact renderFile_includes_plain_page r 1 "page" "part" "<" ">" "x!" s s' rfl (fun _ => rfl)
    ⟨[], rfl, by decide +kernel⟩ (by decide) (by decide) (by decide +kernel) (by decide +kernel) (by decide)
    (by decide) rfl hpath hrun (by decide)

end Renderer

end PageTemplate
