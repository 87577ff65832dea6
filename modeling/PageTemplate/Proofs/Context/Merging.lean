/-
Contexts put together. What one context writes into another wins, new names go to the end in their order, and
of three contexts it does not matter which two are put together first. The fields of a record are written like
those of a context that has the ones that are not null.
-/
import PageTemplate.Proofs.Context.History
import PageTemplate.Proofs.Data.Values

namespace PageTemplate.Context

/-- The context has just the fields that are not null, in their order, and each name once. -/
structure Presents (ctx : Context) (fields : Fields Value) : Prop where
  distinct : ctx.names.Nodup
  order : ctx.fields.Sublist fields
  mem_iff : ∀ name v, (name, v) ∈ ctx.fields ↔ (name, v) ∈ fields ∧ v ≠ .null

theorem not_isNull_iff {v : Value} : (!v.isNull) = true ↔ v ≠ .null := by
  cases v <;> simp [Value.isNull]

theorem mergedFields_eq {data : Data} {fields : Fields Value} (h : data.toValue = .ok (.map fields)) :
    mergedFields data = fields.filter fun entry => !entry.2.isNull := by
  unfold mergedFields
  rw [h]

/-- In a map that comes from data each key is there once, so its fields that are not null make a context. -/
theorem exists_presents {data : Data} {fields : Fields Value} (h : data.toValue = .ok (.map fields)) :
    ∃ present : Context, present.Presents fields ∧ ∀ ctx : Context, ctx.merge data = .ok (ctx.update present) := by
  have hnames : (Fields.names fields).Nodup := by
    cases (Data.denotes_of_toValue h).keyed with
    | scalar _ hmap => exact absurd rfl hmap
    | map hnames => exact hnames
  refine ⟨⟨mergedFields data⟩, ?_, fun ctx => ?_⟩
  · rw [mergedFields_eq h]
    refine ⟨hnames.sublist (List.filter_sublist.map Prod.fst), List.filter_sublist, fun name v => ?_⟩
    rw [List.mem_filter, not_isNull_iff]
  · have hmerge : ∃ merged, ctx.merge data = .ok merged := by
      rw [merge, h]
      exact ⟨_, rfl⟩
    obtain ⟨merged, hmerged⟩ := hmerge
    rw [hmerged, merge_eq_ok hmerged, update]

/-- Updating is an ordered merge in which the second context wins. The names of the first one keep their order,
and those that only the second one has follow in its order; a name has the value of the second context, if that
has one. Updating twice with the same context is updating once, and it makes no difference in which order three
contexts are put together. Merging a record updates with the context of its fields that are not null. -/
theorem update_merges_in_order (a b c : Context) (hb : b.names.Nodup) :
    (a.update b).names = a.names ++ b.names.filter (· ∉ a.names) ∧
    (∀ name, (a.update b).get? name = (b.get? name).or (a.get? name)) ∧
    (a.update b).update b = a.update b ∧
    (a.update b).update c = a.update (b.update c) ∧
    ∀ data fields, data.toValue = .ok (.map fields) →
      ∃ present : Context, present.Presents fields ∧ a.merge data = .ok (a.update present) := by
  refine ⟨Fields.names_update_of_nodup a.fields hb, fun name => Fields.get?_update hb, ?_, ?_, fun data fields h => ?_⟩
  · unfold update
    rw [Fields.update_update hb, Fields.update_self hb]
  · unfold update
    rw [Fields.update_update hb]
  · obtain ⟨present, hpresents, hmerge⟩ := exists_presents h
    exact ⟨present, hpresents, hmerge a⟩

/-- Contexts that share names, and a record with a null field. -/
theorem update_merges_in_order_of_shared_names :
    let a : Context := ⟨[("title", .str "home"), ("lang", .str "en")]⟩
    let b : Context := ⟨[("extra", .int 1), ("title", .str "blog")]⟩
    let c : Context := ⟨[("lang", .null), ("extra", .int 2), ("page", .int 3)]⟩
    let data : Data := .record [("next", .absent), ("title", .present (.str "news")), ("tags", .seq [.unit])]
    b.names.Nodup ∧ (a.update b).names = ["title", "lang", "extra"] ∧
      (a.update b).get? "title" = some (.str "blog") ∧ (a.update b).update b = a.update b ∧
      (a.update b).update c = a.update (b.update c) ∧
      data.toValue = .ok (.map [("next", .null), ("title", .str "news"), ("tags", .list [.null])]) ∧
      ∃ present : Context,
        present.Presents [("next", .null), ("title", .str "news"), ("tags", .list [.null])] ∧
        a.merge data = .ok (a.update present) := by
  intro a b c data
  have hb : b.names.Nodup := by decide
  have hdata : data.toValue = .ok (.map [("next", .null), ("title", .str "news"), ("tags", .list [.null])]) := rfl
  obtain ⟨hnames, hvalue, htwice, hgrouped, hmerge⟩ := update_merges_in_order a b c hb
  exact ⟨hb, hnames, hvalue "title", htwice, hgrouped, hdata, hmerge data _ hdata⟩

end PageTemplate.Context
