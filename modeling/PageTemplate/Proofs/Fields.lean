/-
Laws of named entries: what can be found after a write, after many or after an erasure, where it came from,
and in which order the names are.

Entries that are written one after the other are in the order in which their names first come, and each name
has the value that comes last. A list of entries with distinct names is known by its names in order and by what
is found under each. Writing lists of entries with distinct names is associative and idempotent.
-/
import PageTemplate.Fields

namespace PageTemplate.Fields

variable {α : Type} {name m : String} {value v : α} {fields : Fields α}

theorem mem_of_get? : ∀ {fields : Fields α}, get? name fields = some value → (name, value) ∈ fields
  | (n, v) :: rest, h => by
    rw [get?] at h
    split at h
    · rename_i hn
      cases h
      rw [hn]
      exact List.mem_cons_self
    · exact List.mem_cons_of_mem _ (mem_of_get? h)

@[simp] theorem get?_insert_self (name : String) (value : α) :
    ∀ fields : Fields α, get? name (insert name value fields) = some value
  | [] => by simp [insert, get?]
  | (n, old) :: rest => by
    by_cases hn : n = name
    · simp [insert, get?, hn]
    · simp [insert, get?, hn, get?_insert_self name value rest]

theorem get?_insert_of_ne (hne : m ≠ name) (value : α) :
    ∀ fields : Fields α, get? m (insert name value fields) = get? m fields
  | [] => if_neg hne.symm
  | (n, old) :: rest => by
    rw [insert]
    split
    · rename_i hn
      rw [get?, get?, hn, if_neg hne.symm, if_neg hne.symm]
    · rw [get?, get?, get?_insert_of_ne hne value rest]

theorem get?_append (name : String) (fields : Fields α) :
    ∀ more : Fields α, get? name (more ++ fields) = (get? name more).or (get? name fields)
  | [] => rfl
  | (n, value) :: more => by
    rw [List.cons_append, get?, get?]
    split
    · rfl
    · exact get?_append name fields more

theorem get?_erase_of_ne (hne : m ≠ name) : ∀ fields : Fields α, get? m (erase name fields) = get? m fields
  | [] => rfl
  | (n, old) :: rest => by
    by_cases hn : n = name
    · subst hn
      rw [erase, if_pos rfl, get?, if_neg hne.symm]
    · rw [erase, if_neg hn, get?, get?, get?_erase_of_ne hne rest]

/-- A write gives back what was found under the name. -/
theorem replace_eq (name : String) (value : α) :
    ∀ fields : Fields α, replace name value fields = (get? name fields, insert name value fields)
  | [] => rfl
  | (n, old) :: rest => by
    rw [replace, get?, insert, replace_eq name value rest]
    split <;> rfl

theorem take_eq (name : String) :
    ∀ fields : Fields α, take name fields = (get? name fields, erase name fields)
  | [] => rfl
  | (n, value) :: rest => by
    rw [take, get?, erase, take_eq name rest]
    split <;> rfl

/-- Of two writes to a name the second one counts. -/
theorem insert_insert (name : String) (old value : α) :
    ∀ fields : Fields α, insert name value (insert name old fields) = insert name value fields
  | [] => by simp [insert]
  | (n, v) :: rest => by
    by_cases hn : n = name
    · simp [insert, hn]
    · simp [insert, hn, insert_insert name old value rest]

/-- An entry after a write was there before or has been written. -/
theorem mem_insert : ∀ {fields : Fields α}, (m, v) ∈ insert name value fields →
    (m, v) ∈ fields ∨ m = name ∧ v = value
  | [], h => by
    have heq := List.mem_singleton.1 h
    cases heq
    exact .inr ⟨rfl, rfl⟩
  | (n, old) :: rest, h => by
    by_cases hn : n = name
    · simp only [insert, hn, if_true, List.mem_cons, Prod.mk.injEq] at h
      rcases h with h | h
      · exact .inr h
      · exact .inl (List.mem_cons_of_mem _ h)
    · simp only [insert, hn, if_false, List.mem_cons] at h
      rcases h with h | h
      · exact .inl (h ▸ List.mem_cons_self)
      · rcases mem_insert h with h | h
        · exact .inl (List.mem_cons_of_mem _ h)
        · exact .inr h

/-- An entry after an erasure was there before. -/
theorem mem_of_mem_erase : ∀ {fields : Fields α}, (m, v) ∈ erase name fields → (m, v) ∈ fields
  | (n, old) :: rest, h => by
    by_cases hn : n = name
    · simp only [erase, hn, if_true] at h
      exact List.mem_cons_of_mem _ h
    · simp only [erase, hn, if_false, List.mem_cons] at h
      rcases h with h | h
      · exact h ▸ List.mem_cons_self
      · exact List.mem_cons_of_mem _ (mem_of_mem_erase h)

/-! ## Names in order -/

@[simp] theorem names_nil : names ([] : Fields α) = [] := rfl

@[simp] theorem names_cons (n : String) (v : α) (rest : Fields α) :
    names ((n, v) :: rest) = n :: names rest := rfl

/-- A write to a name that is present does not depend on other writes. -/
theorem insert_comm (hne : m ≠ name) (value v : α) :
    ∀ {fields : Fields α}, m ∈ names fields →
      insert m v (insert name value fields) = insert name value (insert m v fields)
  | (n, old) :: rest, h => by
    by_cases hm : n = m
    · subst hm
      simp [insert, hne]
    · have hrest : m ∈ names rest := by simpa [Ne.symm hm] using h
      by_cases hn : n = name
      · simp [insert, hn, hne.symm]
      · simp [insert, hn, hm, insert_comm hne value v hrest]

/-- A name that is present keeps its place; a new one goes to the end. -/
theorem names_insert (name : String) (value : α) :
    ∀ fields : Fields α,
      names (insert name value fields) = if name ∈ names fields then names fields else names fields ++ [name]
  | [] => by simp [insert]
  | (n, old) :: rest => by
    by_cases hn : n = name
    · simp [insert, hn]
    · rw [insert, if_neg hn, names_cons, names_cons, names_insert name value rest]
      by_cases hmem : name ∈ names rest
      · simp [hmem]
      · simp [hmem, Ne.symm hn]

theorem mem_names_insert {fields : Fields α} :
    m ∈ names (insert name value fields) ↔ m = name ∨ m ∈ names fields := by
  rw [names_insert]
  split
  · rename_i hname
    exact ⟨.inr, fun h => h.elim (fun heq => heq ▸ hname) id⟩
  · simp [or_comm]

theorem insert_of_not_mem (value : α) : ∀ {fields : Fields α}, name ∉ names fields →
    insert name value fields = fields ++ [(name, value)]
  | [], _ => rfl
  | (n, old) :: rest, h => by
    rw [names_cons, List.mem_cons, not_or] at h
    rw [insert, if_neg (Ne.symm h.1), insert_of_not_mem value h.2, List.cons_append]

/-- The names that are left keep their order. -/
theorem names_erase (name : String) : ∀ fields : Fields α, names (erase name fields) = (names fields).erase name
  | [] => rfl
  | (n, value) :: rest => by
    by_cases hn : n = name
    · subst hn
      rw [erase, if_pos rfl, names_cons, List.erase_cons_head]
    · rw [erase, if_neg hn, names_cons, names_cons, names_erase name rest, List.erase_cons_tail (by simpa using hn)]

/-- Where each name is there once, a write does not bring one a second time. -/
theorem nodup_names_insert (name : String) (value : α) (h : (names fields).Nodup) :
    (names (insert name value fields)).Nodup := by
  rw [names_insert]
  split
  · exact h
  · rename_i hname
    refine List.nodup_append.2 ⟨h, List.pairwise_singleton _ name, fun n hn m hm => ?_⟩
    rw [List.mem_singleton.1 hm]
    exact fun heq => hname (heq ▸ hn)

theorem nodup_names_update : ∀ {fields other : Fields α}, (names fields).Nodup →
    (names (update fields other)).Nodup
  | _, [], h => h
  | fields, (n, v) :: rest, h => by
    show (names (update (insert n v fields) rest)).Nodup
    exact nodup_names_update (nodup_names_insert n v h)

theorem get?_eq_none_iff : ∀ {fields : Fields α}, get? name fields = none ↔ name ∉ names fields
  | [] => by simp [get?]
  | (n, v) :: rest => by
    rw [get?, names_cons, List.mem_cons, not_or]
    split
    · rename_i hn
      simp [hn]
    · rename_i hn
      have ih : get? name rest = none ↔ name ∉ names rest := get?_eq_none_iff
      rw [ih]
      exact ⟨fun h => ⟨Ne.symm hn, h⟩, fun h => h.2⟩

theorem mem_names_iff : name ∈ names fields ↔ ∃ value, get? name fields = some value := by
  rw [← Option.isSome_iff_exists, ← Option.ne_none_iff_isSome, ne_eq, get?_eq_none_iff, Decidable.not_not]

theorem mem_names_of_mem (h : (name, value) ∈ fields) : name ∈ names fields := List.mem_map_of_mem h

/-- Where each name is there once, every entry is found. -/
theorem get?_of_mem : ∀ {fields : Fields α}, (names fields).Nodup → (name, value) ∈ fields →
    get? name fields = some value
  | (n, v) :: rest, hnodup, h => by
    obtain ⟨hn, hnodup⟩ := List.nodup_cons.1 hnodup
    rw [get?]
    rcases List.mem_cons.1 h with heq | h
    · cases heq
      rw [if_pos rfl]
    · have hne : n ≠ name := fun heq => hn (heq ▸ mem_names_of_mem h)
      rw [if_neg hne, get?_of_mem hnodup h]

/-- Where each name is there once, the entry that is taken out is the only one of its name. -/
theorem get?_erase_self (h : (names fields).Nodup) : get? name (erase name fields) = none := by
  rw [get?_eq_none_iff, names_erase]
  exact h.not_mem_erase

/-! ## Many writes -/

/-- What is written counts, and all other names keep their values. -/
theorem get?_update : ∀ {fields other : Fields α}, (names other).Nodup →
    get? m (update fields other) = (get? m other).or (get? m fields)
  | fields, [], _ => rfl
  | fields, (n, v) :: rest, h => by
    obtain ⟨hn, hrest⟩ := List.nodup_cons.1 h
    show get? m (update (insert n v fields) rest) = _
    rw [get?_update hrest, get?]
    by_cases hm : n = m
    · subst hm
      rw [get?_eq_none_iff.2 hn, if_pos rfl, get?_insert_self, Option.none_or, Option.some_or]
    · rw [if_neg hm, get?_insert_of_ne (Ne.symm hm)]

/-- Of all that is written to a name the last value counts. -/
theorem get?_update_reverse (m : String) : ∀ fields other : Fields α,
    get? m (update fields other) = (get? m other.reverse).or (get? m fields)
  | fields, [] => rfl
  | fields, (n, v) :: rest => by
    show get? m (update (insert n v fields) rest) = _
    rw [get?_update_reverse m (insert n v fields) rest, List.reverse_cons, get?_append, Option.or_assoc]
    congr 1
    by_cases hm : m = n
    · subst hm
      rw [get?_insert_self, get?, if_pos rfl, Option.some_or]
    · rw [get?_insert_of_ne hm, get?, if_neg (Ne.symm hm), get?, Option.none_or]

/-- Names that are present keep their place; new ones go to the end, in the order in which they first come. -/
theorem names_update : ∀ fields other : Fields α,
    names (update fields other) = names fields ++ ((names other).filter (· ∉ names fields)).eraseDups
  | fields, [] => by simp [update]
  | fields, (n, v) :: rest => by
    show names (update (insert n v fields) rest) = _
    rw [names_update (insert n v fields) rest, names_insert, names_cons]
    by_cases hn : n ∈ names fields
    · rw [if_pos hn, List.filter_cons_of_neg (by simpa using hn)]
    · rw [if_neg hn, List.filter_cons_of_pos (by simpa using hn), List.eraseDups_cons, List.filter_filter,
        List.append_assoc, List.singleton_append]
      congr 3
      refine List.filter_congr fun m _ => ?_
      by_cases hm : m = n <;> simp [hm]

theorem eraseDups_of_nodup : ∀ {l : List String}, l.Nodup → l.eraseDups = l
  | [], _ => List.eraseDups_nil
  | n :: l, h => by
    obtain ⟨hn, hl⟩ := List.nodup_cons.1 h
    have hothers : l.filter (fun m => !m == n) = l := List.filter_eq_self.2 fun m hm => by
      have hne : m ≠ n := fun heq => hn (heq ▸ hm)
      simpa using hne
    rw [List.eraseDups_cons, hothers, eraseDups_of_nodup hl]

/-- Where no name is written twice, the new ones are in the order of the writes. -/
theorem names_update_of_nodup (fields : Fields α) {other : Fields α} (h : (names other).Nodup) :
    names (update fields other) = names fields ++ (names other).filter (· ∉ names fields) := by
  rw [names_update, eraseDups_of_nodup (h.filter _)]

/-- A write to a name that is present, and to which nothing else is written, can come before all others. -/
theorem insert_update (value : α) : ∀ {fields other : Fields α}, name ∈ names fields → name ∉ names other →
    insert name value (update fields other) = update (insert name value fields) other
  | _, [], _, _ => rfl
  | fields, (n, v) :: rest, hfields, hother => by
    rw [names_cons, List.mem_cons, not_or] at hother
    show insert name value (update (insert n v fields) rest) = update (insert n v (insert name value fields)) rest
    rw [insert_update value (mem_names_insert.2 (.inr hfields)) hother.2, insert_comm hother.1 v value hfields]

/-- Entries with one more write are written like the entries and then the one. -/
theorem update_insert (value : α) : ∀ {fields other : Fields α}, (names other).Nodup →
    update fields (insert name value other) = insert name value (update fields other)
  | _, [], _ => rfl
  | fields, (n, v) :: rest, h => by
    obtain ⟨hn, hrest⟩ := List.nodup_cons.1 h
    rw [insert]
    split
    · rename_i heq
      subst heq
      show update (insert n value fields) rest = insert n value (update (insert n v fields) rest)
      rw [insert_update value (mem_names_insert.2 (.inl rfl)) hn, insert_insert]
    · exact update_insert value hrest

theorem update_update : ∀ {fields other more : Fields α}, (names other).Nodup →
    update (update fields other) more = update fields (update other more)
  | _, _, [], _ => rfl
  | fields, other, (n, v) :: rest, h => by
    show update (insert n v (update fields other)) rest = update fields (update (insert n v other) rest)
    rw [← update_update (nodup_names_insert n v h), update_insert v h]

theorem mem_of_mem_update : ∀ {fields other : Fields α}, (m, v) ∈ update fields other →
    (m, v) ∈ fields ∨ (m, v) ∈ other
  | _, [], h => .inl h
  | fields, (n, w) :: rest, h => by
    have hupdate : (m, v) ∈ update (insert n w fields) rest := h
    rcases mem_of_mem_update hupdate with h | h
    · rcases mem_insert h with h | ⟨rfl, rfl⟩
      · exact .inl h
      · exact .inr List.mem_cons_self
    · exact .inr (List.mem_cons_of_mem _ h)

theorem names_ofList (entries : List (String × α)) : names (ofList entries) = (names entries).eraseDups := by
  rw [ofList, names_update, names_nil, List.nil_append, List.filter_eq_self.2 (by simp)]

theorem get?_ofList (m : String) (entries : List (String × α)) :
    get? m (ofList entries) = get? m entries.reverse := by
  rw [ofList, get?_update_reverse, get?, Option.or_none]

theorem nodup_names_ofList (entries : List (String × α)) : (names (ofList entries)).Nodup :=
  nodup_names_update List.nodup_nil

/-- Entries with the same distinct names in order and the same values under them are the same. -/
theorem ext_of_get? : ∀ {fields other : Fields α}, (names fields).Nodup → names fields = names other →
    (∀ name, get? name fields = get? name other) → fields = other
  | [], [], _, _, _ => rfl
  | (n, v) :: rest, (n', v') :: rest', hnodup, hnames, hget => by
    obtain ⟨rfl, hrest⟩ := List.cons.inj hnames
    obtain ⟨hn, hnodup⟩ := List.nodup_cons.1 hnodup
    have hv : v = v' := by simpa [get?] using hget n
    have hother (name : String) : get? name rest = get? name rest' := by
      by_cases hname : n = name
      · subst hname
        have heq : names rest = names rest' := hrest
        rw [get?_eq_none_iff.2 hn, get?_eq_none_iff.2 (heq ▸ hn)]
      · simpa [get?, hname] using hget name
    rw [hv, ext_of_get? hnodup hrest hother]

/-- Entries that are written over themselves do not change. -/
theorem update_self (h : (names fields).Nodup) : update fields fields = fields := by
  refine ext_of_get? (nodup_names_update h) ?_ fun name => ?_
  · rw [names_update_of_nodup fields h, List.filter_eq_nil_iff.2 (by simp), List.append_nil]
  · rw [get?_update h, Option.or_self]

/-- Written entries, gathered: the names are in the order in which they first come, and each has the value that
comes last. -/
structure Gathers (entries fields : Fields α) : Prop where
  names_eq : names fields = (names entries).eraseDups
  get?_eq : ∀ name, get? name fields = get? name entries.reverse

theorem gathers_iff {entries : Fields α} : Gathers entries fields ↔ fields = ofList entries := by
  have hofList : Gathers entries (ofList entries) :=
    ⟨names_ofList entries, fun name => get?_ofList name entries⟩
  refine ⟨fun h => ?_, fun h => h ▸ hofList⟩
  have hnames : names (ofList entries) = names fields := hofList.names_eq.trans h.names_eq.symm
  exact (ext_of_get? (nodup_names_ofList entries) hnames fun name =>
    (hofList.get?_eq name).trans (h.get?_eq name).symm).symm

end PageTemplate.Fields
