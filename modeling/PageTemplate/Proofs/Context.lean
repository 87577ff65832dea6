/-
Laws of contexts: what a look at the clock changes. The names of the time get new values, in their old
places or behind all others, and no other name is touched. And whatever is written, each name is there once.
-/
import Mathlib.Tactic.Common
import PageTemplate.Context
import PageTemplate.Proofs.Fields
import PageTemplate.Proofs.Outcome

namespace PageTemplate.Context

/-- The names that hold the time, in the order in which they are written. -/
def timeNames : List String := ["timestamp", "date", "iso_date"]

variable {ctx : Context} {now : Reading} {name : String}

theorem get?_refresh (h : name ∉ timeNames) : (ctx.refresh now).get? name = ctx.get? name := by
  simp only [timeNames, List.mem_cons, List.not_mem_nil, or_false, not_or] at h
  obtain ⟨htimestamp, hdate, hiso⟩ := h
  unfold get? refresh
  rw [Fields.get?_insert_of_ne hiso, Fields.get?_insert_of_ne hdate, Fields.get?_insert_of_ne htimestamp]

/-- Names of the time that are missing go to the end. -/
theorem names_refresh (ctx : Context) (now : Reading) :
    (ctx.refresh now).names = ctx.names ++ timeNames.filter (· ∉ ctx.names) := by
  unfold names refresh
  simp only [Fields.names_insert, timeNames]
  by_cases htimestamp : "timestamp" ∈ Fields.names ctx.fields <;>
    by_cases hdate : "date" ∈ Fields.names ctx.fields <;>
      by_cases hiso : "iso_date" ∈ Fields.names ctx.fields <;> simp [htimestamp, hdate, hiso]

theorem nodup_names_refresh (h : ctx.names.Nodup) (now : Reading) : (ctx.refresh now).names.Nodup :=
  Fields.nodup_names_insert _ _ (Fields.nodup_names_insert _ _ (Fields.nodup_names_insert _ _ h))

/-- A context that is made of data has each of its names once. -/
theorem nodup_names_ofData {data : Data} (h : ofData now data = .ok ctx) : ctx.names.Nodup := by
  have hempty : (Context.mk []).names.Nodup := List.nodup_nil
  have hnew : (new now).names.Nodup := nodup_names_refresh hempty now
  obtain ⟨value, -, h⟩ := bind_eq_ok.1 h
  split at h
  · cases h
    exact Fields.nodup_names_update hnew
  · cases h
    exact hnew
  · cases h

/-- Of two times the second one is left. -/
theorem refresh_refresh (ctx : Context) (before now : Reading) :
    (ctx.refresh before).refresh now = ctx.refresh now := by
  unfold refresh
  dsimp only
  rw [Fields.insert_comm (m := "timestamp") (by decide), Fields.insert_comm (m := "timestamp") (by decide),
    Fields.insert_insert, Fields.insert_comm (m := "date") (by decide), Fields.insert_insert,
    Fields.insert_insert] <;> simp [Fields.mem_names_insert]

end PageTemplate.Context
