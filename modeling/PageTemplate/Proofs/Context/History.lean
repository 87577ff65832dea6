/-
Histories of contexts: any operations, one after the other, on a context that is new. They come down to single
changes, each a write to a name or the removal of one, and the context is the ordered map that these changes
make: a name has the value that was written to it last since its last removal, and the names are in the order of
their first writes since then.

The invariant says just this of a context and the changes that led to it. An operation does its changes one by
one, so it is enough that a single change keeps the invariant.
-/
import Mathlib.Data.List.Induction
import Mathlib.Data.List.Nodup
import Mathlib.Tactic.Common
import PageTemplate.Proofs.Context

namespace PageTemplate.Context

/-! ## Operations -/

/-- What can be done with a context. -/
inductive Operation where
  | insert (name : String) (value : Value)
  | remove (name : String)
  | refresh (now : Reading)
  | update (other : Context)
  | merge (data : Data)
  | get (name : String)

/-- What an operation answers. -/
inductive Answer where
  | value (v : Option Value)
  | done
  | refused (fault : DataFault)

/-- The name whose value is answered. -/
def Operation.asked? : Operation → Option String
  | .insert name _ | .remove name | .get name => some name
  | _ => none

/-- Does an operation. -/
def perform (ctx : Context) : Operation → Answer × Context
  | .insert name value =>
    let (replaced, ctx) := ctx.replace name value
    (.value replaced, ctx)
  | .remove name =>
    let (taken, ctx) := ctx.take name
    (.value taken, ctx)
  | .refresh now => (.done, ctx.refresh now)
  | .update other => (.done, ctx.update other)
  | .merge data =>
    match ctx.merge data with
    | .ok merged => (.done, merged)
    | .error fault => (.refused fault, ctx)
  | .get name => (.value (ctx.get? name), ctx)

/-- The context after operations. -/
def after (ctx : Context) (ops : List Operation) : Context := ops.foldl (fun ctx op => (ctx.perform op).2) ctx

/-! ## Changes -/

/-- A single change. -/
inductive Change where
  | write (name : String) (value : Value)
  | removal (name : String)

def Change.name : Change → String
  | .write name _ => name
  | .removal name => name

/-- Writes of all entries, in order. -/
def writes (fields : Fields Value) : List Change := fields.map fun (name, value) => .write name value

/-- The fields that merging data writes. -/
def mergedFields (data : Data) : Fields Value :=
  match data.toValue with
  | .ok (.map fields) => fields.filter fun (_, value) => !value.isNull
  | _ => []

/-- The changes that an operation comes down to. -/
def Operation.changes : Operation → List Change
  | .insert name value => [.write name value]
  | .remove name => [.removal name]
  | .refresh now =>
    [.write "timestamp" (.float now.timestamp), .write "date" (.str now.date), .write "iso_date" (.str now.isoDate)]
  | .update other => writes other.fields
  | .merge data => writes (mergedFields data)
  | .get _ => []

/-- All changes to a context that is made at a time and worked on by operations. -/
def history (now : Reading) (ops : List Operation) : List Change :=
  (Operation.refresh now).changes ++ ops.flatMap Operation.changes

/-- Of all changes to the name the last one writes the value. -/
def LastWrite (changes : List Change) (name : String) (value : Value) : Prop :=
  ∃ before behind, changes = before ++ .write name value :: behind ∧ ∀ c ∈ behind, c.name ≠ name

/-- Behind the changes `before` comes the first write to the name since its last removal: the name has no value
there, is written, and is not removed any more. -/
def FirstWrite (changes : List Change) (name : String) (before : List Change) : Prop :=
  (∀ old, ¬ LastWrite before name old) ∧
    ∃ value behind, changes = before ++ .write name value :: behind ∧ .removal name ∉ behind

/-- The context is the ordered map that changes make. -/
structure Records (ctx : Context) (changes : List Change) : Prop where
  distinct : ctx.names.Nodup
  value : ∀ name value, ctx.get? name = some value ↔ LastWrite changes name value
  first : ∀ name, name ∈ ctx.names ↔ ∃! before, FirstWrite changes name before
  order : ctx.names.Pairwise fun a b =>
    ∀ s t, FirstWrite changes a s → FirstWrite changes b t → s.length < t.length

/-! ## One more change -/

section

variable {changes : List Change} {c : Change} {name : String} {value : Value} {before : List Change}

/-- A list with one more item falls apart in front of this item or at it. -/
theorem concat_eq_append_cons_iff {α : Type} {l front back : List α} {a b : α} :
    l ++ [a] = front ++ b :: back ↔
      (∃ back', back = back' ++ [a] ∧ l = front ++ b :: back') ∨ back = [] ∧ l = front ∧ a = b := by
  rcases List.eq_nil_or_concat back with rfl | ⟨back', last, rfl⟩
  · simp
  · have hassoc : front ++ b :: (back' ++ [last]) = (front ++ b :: back') ++ [last] := by simp
    rw [List.concat_eq_append, hassoc, List.append_singleton_inj]
    constructor
    · rintro ⟨rfl, rfl⟩
      exact .inl ⟨back', rfl, rfl⟩
    · rintro (⟨back'', hback, rfl⟩ | ⟨hback, -⟩)
      · obtain ⟨rfl, rfl⟩ := List.append_singleton_inj.1 hback
        exact ⟨rfl, rfl⟩
      · simp at hback

theorem lastWrite_concat_iff :
    LastWrite (changes ++ [c]) name value ↔
      c = .write name value ∨ LastWrite changes name value ∧ c.name ≠ name := by
  constructor
  · rintro ⟨before, behind, heq, hbehind⟩
    rcases concat_eq_append_cons_iff.1 heq with ⟨behind', rfl, hchanges⟩ | ⟨rfl, rfl, hc⟩
    · rw [List.forall_mem_append, List.forall_mem_singleton] at hbehind
      exact .inr ⟨⟨before, behind', hchanges, hbehind.1⟩, hbehind.2⟩
    · exact .inl hc
  · rintro (rfl | ⟨⟨before, behind, rfl, hbehind⟩, hc⟩)
    · exact ⟨changes, [], rfl, List.forall_mem_nil _⟩
    · refine ⟨before, behind ++ [c], by simp, ?_⟩
      exact List.forall_mem_append.2 ⟨hbehind, List.forall_mem_singleton.2 hc⟩

theorem firstWrite_concat_iff :
    FirstWrite (changes ++ [c]) name before ↔
      FirstWrite changes name before ∧ c ≠ .removal name ∨
        (∃ value, c = .write name value) ∧ before = changes ∧ ∀ old, ¬ LastWrite changes name old := by
  constructor
  · rintro ⟨hnone, value, behind, heq, hbehind⟩
    rcases concat_eq_append_cons_iff.1 heq with ⟨behind', rfl, hchanges⟩ | ⟨rfl, rfl, hc⟩
    · rw [List.mem_append, List.mem_singleton, not_or] at hbehind
      exact .inl ⟨⟨hnone, value, behind', hchanges, hbehind.1⟩, Ne.symm hbehind.2⟩
    · exact .inr ⟨⟨value, hc⟩, rfl, hnone⟩
  · rintro (⟨⟨hnone, value, behind, rfl, hbehind⟩, hc⟩ | ⟨⟨value, rfl⟩, rfl, hnone⟩)
    · refine ⟨hnone, value, behind ++ [c], by simp, ?_⟩
      exact List.not_mem_append hbehind (by simpa using Ne.symm hc)
    · exact ⟨hnone, value, [], rfl, List.not_mem_nil⟩

theorem FirstWrite.length_lt (h : FirstWrite changes name before) : before.length < changes.length := by
  obtain ⟨-, value, behind, rfl, -⟩ := h
  simp

/-- A name that has a first write has a value. -/
theorem FirstWrite.exists_lastWrite (h : FirstWrite changes name before) : ∃ value, LastWrite changes name value := by
  induction changes using List.reverseRec with
  | nil => exact absurd h.length_lt (Nat.not_lt_zero _)
  | append_singleton changes c ih =>
    rcases firstWrite_concat_iff.1 h with ⟨h, hc⟩ | ⟨⟨value, rfl⟩, -, -⟩
    · obtain ⟨value, hvalue⟩ := ih h
      cases c with
      | write n w =>
        by_cases hn : n = name
        · subst hn
          exact ⟨w, lastWrite_concat_iff.2 (.inl rfl)⟩
        · exact ⟨value, lastWrite_concat_iff.2 (.inr ⟨hvalue, hn⟩)⟩
      | removal n =>
        exact ⟨value, lastWrite_concat_iff.2 (.inr ⟨hvalue, fun hn => hc (congrArg Change.removal hn)⟩)⟩
    · exact ⟨value, lastWrite_concat_iff.2 (.inl rfl)⟩

theorem LastWrite.exists_firstWrite (h : LastWrite changes name value) : ∃ before, FirstWrite changes name before := by
  induction changes using List.reverseRec generalizing value with
  | nil =>
    obtain ⟨before, behind, heq, -⟩ := h
    simp at heq
  | append_singleton changes c ih =>
    by_cases hlive : ∃ old, LastWrite changes name old
    · obtain ⟨old, hold⟩ := hlive
      obtain ⟨before, hbefore⟩ := ih hold
      refine ⟨before, firstWrite_concat_iff.2 (.inl ⟨hbefore, ?_⟩)⟩
      rintro rfl
      rcases lastWrite_concat_iff.1 h with hc | ⟨-, hc⟩
      · cases hc
      · exact hc rfl
    · rcases lastWrite_concat_iff.1 h with hc | ⟨h, -⟩
      · exact ⟨changes, firstWrite_concat_iff.2 (.inr ⟨⟨value, hc⟩, rfl, not_exists.1 hlive⟩)⟩
      · exact absurd ⟨value, h⟩ hlive

theorem FirstWrite.unique {before' : List Change} (h : FirstWrite changes name before)
    (h' : FirstWrite changes name before') : before = before' := by
  induction changes using List.reverseRec with
  | nil => exact absurd h.length_lt (Nat.not_lt_zero _)
  | append_singleton changes c ih =>
    rcases firstWrite_concat_iff.1 h with ⟨h, -⟩ | ⟨-, rfl, hnone⟩ <;>
      rcases firstWrite_concat_iff.1 h' with ⟨h', -⟩ | ⟨-, rfl, hnone'⟩
    · exact ih h h'
    · obtain ⟨old, hold⟩ := h.exists_lastWrite
      exact absurd hold (hnone' old)
    · obtain ⟨old, hold⟩ := h'.exists_lastWrite
      exact absurd hold (hnone old)
    · rfl

theorem existsUnique_firstWrite_iff :
    (∃! before, FirstWrite changes name before) ↔ ∃ value, LastWrite changes name value := by
  constructor
  · rintro ⟨before, h, -⟩
    exact h.exists_lastWrite
  · rintro ⟨value, h⟩
    obtain ⟨before, hbefore⟩ := h.exists_firstWrite
    exact ⟨before, hbefore, fun other hother => hother.unique hbefore⟩

end

/-! ## Operations come down to changes -/

/-- The context after a single change. -/
def change (ctx : Context) : Change → Context
  | .write name value => ctx.insert name value
  | .removal name => ctx.erase name

variable {ctx : Context} {changes : List Change}

theorem foldl_change_writes (ctx : Context) (fields : Fields Value) :
    (writes fields).foldl change ctx = ⟨ctx.fields.update fields⟩ := by
  induction fields generalizing ctx with
  | nil => rfl
  | cons entry fields ih => exact ih (ctx.insert entry.1 entry.2)

theorem merge_eq_ok {data : Data} {merged : Context} (h : ctx.merge data = .ok merged) :
    merged = ⟨ctx.fields.update (mergedFields data)⟩ := by
  obtain ⟨value, hvalue, h⟩ := bind_eq_ok.1 h
  unfold mergedFields
  rw [hvalue]
  split at h
  · cases h
    rfl
  · cases h
    rfl
  · cases h

theorem merge_eq_error {data : Data} {fault : DataFault} (h : ctx.merge data = .error fault) :
    mergedFields data = [] := by
  unfold mergedFields
  rcases bind_eq_error.1 h with hvalue | ⟨value, hvalue, h⟩
  · rw [hvalue]
  · rw [hvalue]
    cases value with
    | map fields => cases h
    | _ => rfl

theorem perform_eq_foldl_change (ctx : Context) (op : Operation) :
    (ctx.perform op).2 = op.changes.foldl change ctx := by
  cases op with
  | insert name value =>
    show Context.mk (ctx.fields.replace name value).2 = _
    rw [Fields.replace_eq]
    rfl
  | remove name =>
    show Context.mk (ctx.fields.take name).2 = _
    rw [Fields.take_eq]
    rfl
  | refresh now => rfl
  | update other => exact (foldl_change_writes ctx other.fields).symm
  | merge data =>
    rw [Operation.changes, foldl_change_writes, perform]
    split
    · rename_i h
      exact merge_eq_ok h
    · rename_i h
      rw [merge_eq_error h]
      rfl
  | get name => rfl

theorem after_eq_foldl_change (ctx : Context) (ops : List Operation) :
    ctx.after ops = (ops.flatMap Operation.changes).foldl change ctx := by
  induction ops generalizing ctx with
  | nil => rfl
  | cons op ops ih =>
    show (ctx.perform op).2.after ops = _
    rw [ih, perform_eq_foldl_change, List.flatMap_cons, List.foldl_append]

/-! ## The invariant -/

namespace Records

/-- That the names are those with a first write follows from the values. -/
theorem of_values (hdistinct : ctx.names.Nodup)
    (hvalue : ∀ name value, ctx.get? name = some value ↔ LastWrite changes name value)
    (horder : ctx.names.Pairwise fun a b =>
      ∀ s t, FirstWrite changes a s → FirstWrite changes b t → s.length < t.length) :
    ctx.Records changes where
  distinct := hdistinct
  value := hvalue
  first name := by
    rw [existsUnique_firstWrite_iff, names, Fields.mem_names_iff]
    exact exists_congr (hvalue name)
  order := horder

theorem mem_names_iff (h : ctx.Records changes) {name : String} :
    name ∈ ctx.names ↔ ∃ value, LastWrite changes name value :=
  (h.first name).trans existsUnique_firstWrite_iff

theorem empty : Records ⟨[]⟩ [] := by
  refine of_values List.nodup_nil (fun name value => ⟨nofun, ?_⟩) .nil
  rintro ⟨before, behind, heq, -⟩
  simp at heq

/-- A write to a name that is present changes no first write; one to a new name is its first write, behind all
others. -/
theorem write (h : ctx.Records changes) (name : String) (value : Value) :
    (ctx.insert name value).Records (changes ++ [.write name value]) := by
  refine of_values (Fields.nodup_names_insert name value h.distinct) (fun m w => ?_) ?_
  · rw [lastWrite_concat_iff, ← h.value m w]
    by_cases hm : m = name
    · subst hm
      simp [get?, insert, Change.name, eq_comm]
    · simp [get?, insert, Change.name, Fields.get?_insert_of_ne hm, Ne.symm hm]
  · have hearlier {m : String} {s : List Change} (hs : FirstWrite (changes ++ [.write name value]) m s)
        (hm : m ∈ ctx.names) : FirstWrite changes m s := by
      rcases firstWrite_concat_iff.1 hs with ⟨hs, -⟩ | ⟨⟨w, heq⟩, -, hnone⟩
      · exact hs
      · obtain ⟨old, hold⟩ := h.mem_names_iff.1 hm
        exact absurd hold (hnone old)
    have hold : ctx.names.Pairwise fun a b => ∀ s t, FirstWrite (changes ++ [.write name value]) a s →
        FirstWrite (changes ++ [.write name value]) b t → s.length < t.length :=
      h.order.imp_of_mem fun ha hb hab s t hs ht => hab s t (hearlier hs ha) (hearlier ht hb)
    have hnames : (ctx.insert name value).names = if name ∈ ctx.names then ctx.names else ctx.names ++ [name] :=
      Fields.names_insert name value ctx.fields
    rw [hnames]
    split
    · exact hold
    · rename_i hname
      refine List.pairwise_append.2 ⟨hold, List.pairwise_singleton _ name, fun a ha b hb s t hs ht => ?_⟩
      rw [List.mem_singleton.1 hb] at ht
      rcases firstWrite_concat_iff.1 ht with ⟨ht, -⟩ | ⟨-, rfl, -⟩
      · exact absurd (h.mem_names_iff.2 ht.exists_lastWrite) hname
      · exact (hearlier hs ha).length_lt

/-- A removal keeps the order of the names that are left. -/
theorem removal (h : ctx.Records changes) (name : String) :
    (ctx.erase name).Records (changes ++ [.removal name]) := by
  have hnames : (ctx.erase name).names = ctx.names.erase name := Fields.names_erase name ctx.fields
  refine of_values (hnames ▸ h.distinct.erase name) (fun m w => ?_) ?_
  · rw [lastWrite_concat_iff, ← h.value m w]
    by_cases hm : m = name
    · subst hm
      simp [get?, erase, Change.name, Fields.get?_erase_self h.distinct]
    · simp [get?, erase, Change.name, Fields.get?_erase_of_ne hm, Ne.symm hm]
  · rw [hnames]
    refine (h.order.sublist List.erase_sublist).imp fun hab s t hs ht => ?_
    rcases firstWrite_concat_iff.1 hs with ⟨hs, -⟩ | ⟨⟨w, heq⟩, -, -⟩
    · rcases firstWrite_concat_iff.1 ht with ⟨ht, -⟩ | ⟨⟨w, heq⟩, -, -⟩
      · exact hab s t hs ht
      · cases heq
    · cases heq

/-- The step lemma. -/
theorem step (h : ctx.Records changes) : ∀ c : Change, (ctx.change c).Records (changes ++ [c])
  | .write name value => h.write name value
  | .removal name => h.removal name

/-- The run lemma. -/
theorem foldl (h : ctx.Records changes) (more : List Change) : (more.foldl change ctx).Records (changes ++ more) := by
  induction more generalizing ctx changes with
  | nil => rwa [List.append_nil]
  | cons c more ih =>
    have hrest := ih (h.step c)
    rwa [List.append_assoc] at hrest

end Records

theorem records_history (now : Reading) (ops : List Operation) :
    ((new now).after ops).Records (history now ops) := by
  have hnew : new now = (Operation.refresh now).changes.foldl change ⟨[]⟩ := rfl
  rw [after_eq_foldl_change, hnew, ← List.foldl_append]
  exact Records.empty.foldl (history now ops)

/-- Who asks for a name gets the value that it has. -/
theorem perform_asked {op : Operation} {name : String} (h : op.asked? = some name) :
    (ctx.perform op).1 = .value (ctx.get? name) := by
  cases op with
  | insert n value =>
    cases h
    exact congrArg (Answer.value ∘ Prod.fst) (Fields.replace_eq name value ctx.fields)
  | remove n =>
    cases h
    exact congrArg (Answer.value ∘ Prod.fst) (Fields.take_eq name ctx.fields)
  | get n =>
    cases h
    rfl
  | _ => cases h

theorem perform_refused {op : Operation} {fault : DataFault} (h : (ctx.perform op).1 = .refused fault) :
    (ctx.perform op).2 = ctx := by
  cases op with
  | merge data =>
    rw [perform] at h ⊢
    split at h
    · cases h
    · rfl
  | _ => cases h

/-- After any operations on a new context it is the ordered map of all changes: distinct names in the order of
their first writes since their last removals, each with the value that was last written. And whatever is done
next, it answers with the value that the name has, a removal keeps the order of the other names, and what is
refused changes nothing. -/
theorem after_records_history (now : Reading) (ops : List Operation) :
    ((new now).after ops).Records (history now ops) ∧
    (∀ op name, op.asked? = some name → ∃ v, (((new now).after ops).perform op).1 = .value v ∧
      ∀ value, v = some value ↔ LastWrite (history now ops) name value) ∧
    (∀ name, (((new now).after ops).perform (.remove name)).2.names =
      ((new now).after ops).names.filter (· != name)) ∧
    ∀ op fault, (((new now).after ops).perform op).1 = .refused fault →
      (((new now).after ops).perform op).2 = (new now).after ops := by
  have hrecords := records_history now ops
  refine ⟨hrecords, fun op name hop => ⟨_, perform_asked hop, hrecords.value name⟩, fun name => ?_,
    fun op fault => perform_refused⟩
  rw [perform_eq_foldl_change]
  exact (Fields.names_erase name _).trans (hrecords.distinct.erase_eq_filter name)

/-- A name that was removed comes back at the end. -/
example (now : Reading) : ((new now).after [.remove "date", .insert "a" .null, .refresh now]).names =
    ["timestamp", "iso_date", "a", "date"] := rfl

end PageTemplate.Context
