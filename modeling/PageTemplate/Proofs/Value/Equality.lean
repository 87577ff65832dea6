/-
Equality of values. Two values are equal if they have the same content, where the entries of a map can come in
any order, at whatever depth. On values without doubles, whose maps have distinct keys, this is an equivalence,
and so is equality in a condition, which counts false and true as zero and one at the top.
-/
import Mathlib.Data.List.Nodup
import Mathlib.Data.List.Perm.Basic
import Mathlib.Data.List.Perm.Subperm
import PageTemplate.Proofs.Data.Values
import PageTemplate.Value.Order

namespace PageTemplate.Value

/-! ## The same content -/

/-- There is no double in the value, at any depth. -/
inductive WithoutDoubles : Value → Prop
  | scalar {v : Value} : v.kind ∉ [.float, .list, .map] → WithoutDoubles v
  | list {items : List Value} : (∀ item ∈ items, WithoutDoubles item) → WithoutDoubles (.list items)
  | map {fields : Fields Value} : (∀ entry ∈ fields, WithoutDoubles entry.2) → WithoutDoubles (.map fields)

/-- A value whose maps have distinct keys and that has no doubles. -/
def Exact (v : Value) : Prop := v.Keyed ∧ v.WithoutDoubles

variable {a b c : Value}

theorem WithoutDoubles.ne_float {x : Float} (h : a.WithoutDoubles) : a ≠ .float x := by
  rintro rfl
  cases h with
  | scalar h => simp [kind] at h

theorem WithoutDoubles.items {items : List Value} (h : WithoutDoubles (.list items)) :
    ∀ item ∈ items, item.WithoutDoubles := by
  cases h with
  | scalar h => simp [kind] at h
  | list hitems => exact hitems

theorem Exact.scalar (h : a.kind ∉ [.float, .list, .map]) : a.Exact := by
  have hkind : a.kind ≠ .list ∧ a.kind ≠ .map := ⟨fun heq => h (by simp [heq]), fun heq => h (by simp [heq])⟩
  exact ⟨.scalar hkind.1 hkind.2, .scalar h⟩

theorem Exact.map {fields : Fields Value} (hnames : (Fields.names fields).Nodup)
    (h : ∀ entry ∈ fields, entry.2.Exact) : Exact (.map fields) :=
  ⟨.map hnames fun entry hentry => (h entry hentry).1, .map fun entry hentry => (h entry hentry).2⟩

theorem Exact.items {items : List Value} (h : Exact (.list items)) : ∀ item ∈ items, item.Exact := by
  obtain ⟨hkeyed, hdoubles⟩ := h
  cases hkeyed with
  | scalar hlist => exact absurd rfl hlist
  | list hitems => exact fun item hitem => ⟨hitems item hitem, hdoubles.items item hitem⟩

theorem WithoutDoubles.fields {fields : Fields Value} (h : WithoutDoubles (.map fields)) :
    ∀ entry ∈ fields, entry.2.WithoutDoubles := by
  cases h with
  | scalar h => simp [kind] at h
  | map hfields => exact hfields

/-- The values have the same content: items one by one, and entries by their keys. -/
inductive SameContent : Value → Value → Prop
  | null : SameContent .null .null
  | bool (b : Bool) : SameContent (.bool b) (.bool b)
  | int (i : Int64) : SameContent (.int i) (.int i)
  | float {x y : Float} : (x == y) = true → SameContent (.float x) (.float y)
  | str (s : String) : SameContent (.str s) (.str s)
  | list {as bs : List Value} :
      as.length = bs.length → (∀ (i : Nat) a b, as[i]? = some a → bs[i]? = some b → SameContent a b) →
      SameContent (.list as) (.list bs)
  | map {as bs : Fields Value} :
      (Fields.names as).Perm (Fields.names bs) →
      (∀ key a b, (key, a) ∈ as → (key, b) ∈ bs → SameContent a b) → SameContent (.map as) (.map bs)

/-- Where the keys of a map are distinct, another map has its content if it is as long and has its entries. -/
theorem sameContent_map_iff {as bs : Fields Value} (hnames : (Fields.names as).Nodup) :
    SameContent (.map as) (.map bs) ↔
      as.length = bs.length ∧ ∀ key a, (key, a) ∈ as → ∃ b, Fields.get? key bs = some b ∧ SameContent a b := by
  constructor
  · intro h
    cases h with
    | map hperm hentries =>
      refine ⟨by simpa [Fields.names] using hperm.length_eq, fun key a ha => ?_⟩
      obtain ⟨b, hb⟩ := Fields.mem_names_iff.1 (hperm.subset (Fields.mem_names_of_mem ha))
      exact ⟨b, hb, hentries key a b ha (Fields.mem_of_get? hb)⟩
  · rintro ⟨hlength, hentries⟩
    have hsubset : Fields.names as ⊆ Fields.names bs := fun key hkey => by
      obtain ⟨⟨_, a⟩, ha, rfl⟩ := List.mem_map.1 hkey
      obtain ⟨b, hb, -⟩ := hentries _ a ha
      exact Fields.mem_names_iff.2 ⟨b, hb⟩
    have hperm : (Fields.names as).Perm (Fields.names bs) :=
      (hnames.subperm hsubset).perm_of_length_le (by simp [Fields.names, hlength])
    refine .map hperm fun key a b ha hb => ?_
    obtain ⟨b', hb', hsame⟩ := hentries key a ha
    rw [Fields.get?_of_mem (hperm.nodup hnames) hb] at hb'
    cases hb'
    exact hsame

mutual

theorem equal_iff : ∀ {a b : Value}, a.Keyed → (a.equal b = true ↔ SameContent a b)
  | .null, b, _ => by
    cases b with
    | null => exact ⟨fun _ => .null, fun _ => rfl⟩
    | _ => exact ⟨nofun, nofun⟩
  | .bool x, b, _ => by
    cases b with
    | bool y =>
      rw [equal, beq_iff_eq]
      exact ⟨fun h => h ▸ .bool x, fun h => by cases h; rfl⟩
    | _ => exact ⟨nofun, nofun⟩
  | .int i, b, _ => by
    cases b with
    | int j =>
      rw [equal, beq_iff_eq]
      exact ⟨fun h => h ▸ .int i, fun h => by cases h; rfl⟩
    | _ => exact ⟨nofun, nofun⟩
  | .float x, b, _ => by
    cases b with
    | float y => exact ⟨.float, fun h => by cases h; assumption⟩
    | _ => exact ⟨nofun, nofun⟩
  | .str s, b, _ => by
    cases b with
    | str t =>
      rw [equal, beq_iff_eq]
      exact ⟨fun h => h ▸ .str s, fun h => by cases h; rfl⟩
    | _ => exact ⟨nofun, nofun⟩
  | .list as, b, h => by
    cases h with
    | scalar hlist => exact absurd rfl hlist
    | list hitems =>
      cases b with
      | list bs =>
        rw [equal, equalItems_iff hitems]
        exact ⟨fun h => .list h.1 h.2, fun h => by cases h with | list hlength hitems => exact ⟨hlength, hitems⟩⟩
      | _ => exact ⟨nofun, nofun⟩
  | .map as, b, h => by
    cases h with
    | scalar _ hmap => exact absurd rfl hmap
    | map hnames hfields =>
      cases b with
      | map bs =>
        rw [equal, Bool.and_eq_true, beq_iff_eq, fieldsWithin_iff hfields, sameContent_map_iff hnames]
      | _ => exact ⟨nofun, nofun⟩

theorem equalItems_iff : ∀ {as bs : List Value}, (∀ a ∈ as, a.Keyed) →
    (equalItems as bs = true ↔
      as.length = bs.length ∧ ∀ (i : Nat) a b, as[i]? = some a → bs[i]? = some b → SameContent a b)
  | [], [], _ => by simp [equalItems]
  | [], b :: bs, _ => by simp [equalItems]
  | a :: as, [], _ => by simp [equalItems]
  | a :: as, b :: bs, h => by
    obtain ⟨ha, has⟩ := List.forall_mem_cons.1 h
    rw [equalItems, Bool.and_eq_true, equal_iff ha, equalItems_iff has, List.length_cons, List.length_cons,
      Nat.succ_inj]
    constructor
    · rintro ⟨hfirst, hlength, hitems⟩
      refine ⟨hlength, fun i x y hx hy => ?_⟩
      cases i with
      | zero =>
        cases hx
        cases hy
        exact hfirst
      | succ i => exact hitems i x y hx hy
    · rintro ⟨hlength, hitems⟩
      exact ⟨hitems 0 a b rfl rfl, hlength, fun i => hitems (i + 1)⟩

/-- Every entry is found under its key. -/
theorem fieldsWithin_iff : ∀ {as bs : Fields Value}, (∀ entry ∈ as, entry.2.Keyed) →
    (fieldsWithin as bs = true ↔ ∀ key a, (key, a) ∈ as → ∃ b, Fields.get? key bs = some b ∧ SameContent a b)
  | [], bs, _ => by simp [fieldsWithin]
  | (key, a) :: as, bs, h => by
    obtain ⟨ha, has⟩ := List.forall_mem_cons.1 h
    rw [fieldsWithin, Bool.and_eq_true, fieldsWithin_iff has]
    constructor
    · rintro ⟨hfirst, hrest⟩ k v hmem
      rcases List.mem_cons.1 hmem with heq | hmem
      · cases heq
        split at hfirst
        · rename_i b hb
          exact ⟨b, hb, (equal_iff ha).1 hfirst⟩
        · cases hfirst
      · exact hrest k v hmem
    · intro hall
      obtain ⟨b, hb, hsame⟩ := hall key a List.mem_cons_self
      rw [hb]
      exact ⟨(equal_iff ha).2 hsame, fun k v hmem => hall k v (List.mem_cons_of_mem _ hmem)⟩

end

/-! ## An equivalence -/

theorem SameContent.refl (hkeyed : a.Keyed) (hdoubles : a.WithoutDoubles) : SameContent a a := by
  induction hkeyed with
  | @scalar v hlist hmap =>
    cases v with
    | null => exact .null
    | bool b => exact .bool b
    | int i => exact .int i
    | float => exact absurd rfl hdoubles.ne_float
    | str s => exact .str s
    | list => exact absurd rfl hlist
    | map => exact absurd rfl hmap
  | list _ ih =>
    refine .list rfl fun i a b ha hb => ?_
    rw [ha] at hb
    cases hb
    have hmem := List.mem_of_getElem? ha
    exact ih a hmem (hdoubles.items a hmem)
  | map hnames _ ih =>
    refine .map (.refl _) fun key a b ha hb => ?_
    -- a key that is there once has one value
    have heq := (Fields.get?_of_mem hnames ha).symm.trans (Fields.get?_of_mem hnames hb)
    cases heq
    exact ih _ ha (hdoubles.fields _ ha)

theorem SameContent.symm (hdoubles : a.WithoutDoubles) (h : SameContent a b) : SameContent b a := by
  induction h with
  | null => exact .null
  | bool b => exact .bool b
  | int i => exact .int i
  | float => exact absurd rfl hdoubles.ne_float
  | str s => exact .str s
  | list hlength _ ih =>
    exact .list hlength.symm fun i b a hb ha => ih i a b ha hb (hdoubles.items a (List.mem_of_getElem? ha))
  | map hperm _ ih => exact .map hperm.symm fun key b a hb ha => ih key a b ha hb (hdoubles.fields _ ha)

theorem SameContent.trans (hdoubles : a.WithoutDoubles) (hab : SameContent a b)
    (hbc : SameContent b c) : SameContent a c := by
  induction hab generalizing c with
  | null | bool | int | str => exact hbc
  | float => exact absurd rfl hdoubles.ne_float
  | @list as bs hlength _ ih =>
    cases hbc with
    | list hlength' hbehind =>
      refine .list (hlength.trans hlength') fun i a c ha hc => ?_
      have hi : i < bs.length := hlength ▸ (List.getElem?_eq_some_iff.1 ha).1
      have hb : bs[i]? = some bs[i] := List.getElem?_eq_getElem hi
      exact ih i a _ ha hb (hdoubles.items a (List.mem_of_getElem? ha)) (hbehind i _ c hb hc)
  | map hperm _ ih =>
    cases hbc with
    | map hperm' hentries =>
      refine .map (hperm.trans hperm') fun key a c ha hc => ?_
      obtain ⟨b, hb⟩ := Fields.mem_names_iff.1 (hperm.subset (Fields.mem_names_of_mem ha))
      have hb := Fields.mem_of_get? hb
      exact ih key a b ha hb (hdoubles.fields _ ha) (hentries key b c hb hc)

/-! ## Equality in a condition -/

/-- False and true as zero and one; those inside a list or a map stay what they are. -/
def counted : Value → Value
  | .bool b => .int (bit b)
  | v => v

/-- The first value is a boolean and the second one the number that it counts as. -/
def CountsAs (a b : Value) : Prop := ∃ x, a = .bool x ∧ b = .int (bit x)

theorem Keyed.counted (h : a.Keyed) : a.counted.Keyed := by
  cases a with
  | bool => exact .scalar nofun nofun
  | _ => exact h

theorem WithoutDoubles.counted (h : a.WithoutDoubles) : a.counted.WithoutDoubles := by
  cases a with
  | bool => exact .scalar (by simp [counted, kind])
  | _ => exact h

/-- Equality in a condition is equality of what is counted. -/
theorem alike_eq_equal_counted (ha : a.WithoutDoubles) (hb : b.WithoutDoubles) :
    a.alike b = a.counted.equal b.counted := by
  cases a with
  | float x => exact absurd rfl ha.ne_float
  | bool x =>
    cases b with
    | bool y => cases x <;> cases y <;> rfl
    | _ => rfl
  | int i =>
    cases b with
    | float y => exact absurd rfl hb.ne_float
    | bool y => exact Bool.beq_comm
    | _ => rfl
  | _ => cases b <;> rfl

theorem sameContent_int_iff {i j : Int64} : SameContent (.int i) (.int j) ↔ i = j :=
  ⟨fun h => by cases h; rfl, fun h => h ▸ .int i⟩

theorem bit_inj {x y : Bool} : bit x = bit y ↔ x = y := by
  cases x <;> cases y <;> decide

/-- Only at the top does a boolean count as a number. -/
theorem sameContent_counted_iff : SameContent a.counted b.counted ↔ SameContent a b ∨ CountsAs a b ∨ CountsAs b a := by
  constructor
  · intro h
    cases a with
    | bool x =>
      cases b with
      | bool y => exact .inl (bit_inj.1 (sameContent_int_iff.1 h) ▸ .bool x)
      | int j => exact .inr (.inl ⟨x, rfl, congrArg _ (sameContent_int_iff.1 h).symm⟩)
      | _ => cases h
    | int i =>
      cases b with
      | bool y => exact .inr (.inr ⟨y, rfl, congrArg _ (sameContent_int_iff.1 h)⟩)
      | _ => exact .inl h
    | _ =>
      cases b with
      | bool y => cases h
      | _ => exact .inl h
  · rintro (h | ⟨x, rfl, rfl⟩ | ⟨x, rfl, rfl⟩)
    · cases a with
      | bool x =>
        cases h
        exact .int (bit x)
      | _ =>
        cases b with
        | bool y => cases h
        | _ => exact h
    · exact .int (bit x)
    · exact .int (bit x)

theorem alike_iff_counted (hkeyed : a.Keyed) (ha : a.WithoutDoubles) (hb : b.WithoutDoubles) :
    a.alike b = true ↔ SameContent a.counted b.counted := by
  rw [alike_eq_equal_counted ha hb, equal_iff hkeyed.counted]

/-- Values are alike in a condition if they have the same content, or if one of them is a boolean and the other one
the number that it counts as. -/
theorem alike_iff (hkeyed : a.Keyed) (ha : a.WithoutDoubles) (hb : b.WithoutDoubles) :
    a.alike b = true ↔ SameContent a b ∨ CountsAs a b ∨ CountsAs b a := by
  rw [alike_iff_counted hkeyed ha hb, sameContent_counted_iff]

theorem Exact.alike_self (h : a.Exact) : a.alike a = true :=
  (alike_iff h.1 h.2 h.2).2 (.inl (.refl h.1 h.2))

/-- Equality in a condition is an equivalence. -/
theorem equivalence_alike : Equivalence fun a b : {v : Value // v.Exact} => a.1.alike b.1 = true where
  refl a := a.2.alike_self
  symm {a b} h := by
    rw [alike_iff_counted a.2.1 a.2.2 b.2.2] at h
    rw [alike_iff_counted b.2.1 b.2.2 a.2.2]
    exact h.symm a.2.2.counted
  trans {a b c} hab hbc := by
    rw [alike_iff_counted a.2.1 a.2.2 b.2.2] at hab
    rw [alike_iff_counted b.2.1 b.2.2 c.2.2] at hbc
    rw [alike_iff_counted a.2.1 a.2.2 c.2.2]
    exact hab.trans a.2.2.counted hbc

end PageTemplate.Value
