/-
The values of data. Wrappers do not show, and the entries of a map or a record are gathered: each key is there
once, where it first came, with the value that came last. So in a value that is made of data every map, at every
depth, has distinct keys; and just the values with distinct keys are got back from their own description.
-/
import PageTemplate.Proofs.Data.Faults
import PageTemplate.Proofs.Fields

namespace PageTemplate

/-- In every map, at every depth, each key is there once. -/
inductive Value.Keyed : Value → Prop
  | scalar {v : Value} : v.kind ≠ .list → v.kind ≠ .map → Keyed v
  | list {items : List Value} : (∀ item ∈ items, Keyed item) → Keyed (.list items)
  | map {fields : Fields Value} :
      (Fields.names fields).Nodup → (∀ entry ∈ fields, Keyed entry.2) → Keyed (.map fields)

namespace Data

/-! ## What data denotes -/

mutual

/-- The value that data stands for. -/
inductive Denotes : Data → Value → Prop
  | bool (b : Bool) : Denotes (.bool b) (.bool b)
  | signed (i : Int64) : Denotes (.signed i) (.int i)
  | unsigned (n : UInt64) : Denotes (.unsigned n) (.ofNat n.toNat)
  | single (x : Float32) : Denotes (.single x) (.float x.toFloat)
  | double (x : Float) : Denotes (.double x) (.float x)
  | char (c : Char) : Denotes (.char c) (.str c.toString)
  | str (s : String) : Denotes (.str s) (.str s)
  | bytes (bs : List UInt8) : Denotes (.bytes bs) (.list (bs.map fun b => .int (Int64.ofNat b.toNat)))
  | absent : Denotes .absent .null
  | unit : Denotes .unit .null
  | variant (name : String) : Denotes (.variant name) (.str name)
  | present {content : Data} {v : Value} : Denotes content v → Denotes (.present content) v
  | newtype {content : Data} {v : Value} : Denotes content v → Denotes (.newtype content) v
  | seq {items : List Data} {vs : List Value} : ItemsDenote items vs → Denotes (.seq items) (.list vs)
  | map {calls : List MapCall} {entries fields : Fields Value} :
      CallsDenote none calls entries → Fields.Gathers entries fields → Denotes (.map calls) (.map fields)
  | record {named : List (String × Data)} {entries fields : Fields Value} :
      FieldsDenote named entries → Fields.Gathers entries fields → Denotes (.record named) (.map fields)

inductive ItemsDenote : List Data → List Value → Prop
  | nil : ItemsDenote [] []
  | cons {item : Data} {rest : List Data} {v : Value} {vs : List Value} :
      Denotes item v → ItemsDenote rest vs → ItemsDenote (item :: rest) (v :: vs)

/-- The entries that calls write, one for each value, under the text of the last key before it. -/
inductive CallsDenote : Option String → List MapCall → Fields Value → Prop
  | nil (pending : Option String) : CallsDenote pending [] []
  | key {pending : Option String} {data : Data} {v : Value} {rest : List MapCall} {entries : Fields Value} :
      Denotes data v → v.kind.isKey = true → CallsDenote (some (String.ofList v.text)) rest entries →
      CallsDenote pending (.key data :: rest) entries
  | value {key : String} {data : Data} {v : Value} {rest : List MapCall} {entries : Fields Value} :
      Denotes data v → CallsDenote none rest entries →
      CallsDenote (some key) (.value data :: rest) ((key, v) :: entries)

inductive FieldsDenote : List (String × Data) → Fields Value → Prop
  | nil : FieldsDenote [] []
  | cons {name : String} {data : Data} {v : Value} {rest : List (String × Data)} {entries : Fields Value} :
      Denotes data v → FieldsDenote rest entries → FieldsDenote ((name, data) :: rest) ((name, v) :: entries)

end

mutual

theorem denotes_of_toValue : ∀ {d : Data} {v : Value}, d.toValue = .ok v → Denotes d v
  | .present content, v, h => by
    rw [toValue] at h
    exact .present (denotes_of_toValue h)
  | .newtype content, v, h => by
    rw [toValue] at h
    exact .newtype (denotes_of_toValue h)
  | .seq items, v, h => by
    rw [toValue] at h
    obtain ⟨vs, hvs, rfl⟩ := map_eq_ok.1 h
    exact .seq (itemsDenote_of_itemValues hvs)
  | .map calls, v, h => by
    rw [toValue] at h
    obtain ⟨fields, hfields, rfl⟩ := map_eq_ok.1 h
    obtain ⟨entries, hentries, heq⟩ := callsDenote_of_mapFields hfields
    exact .map hentries (Fields.gathers_iff.2 heq)
  | .record named, v, h => by
    rw [toValue] at h
    obtain ⟨fields, hfields, rfl⟩ := map_eq_ok.1 h
    obtain ⟨entries, hentries, heq⟩ := fieldsDenote_of_recordFields hfields
    exact .record hentries (Fields.gathers_iff.2 heq)
  | .wide _, _, h | .failure _, _, h => by
    rw [toValue] at h
    cases h
  | .bool b, _, h => by rw [toValue] at h; cases h; exact .bool b
  | .signed i, _, h => by rw [toValue] at h; cases h; exact .signed i
  | .unsigned n, _, h => by rw [toValue] at h; cases h; exact .unsigned n
  | .single x, _, h => by rw [toValue] at h; cases h; exact .single x
  | .double x, _, h => by rw [toValue] at h; cases h; exact .double x
  | .char c, _, h => by rw [toValue] at h; cases h; exact .char c
  | .str s, _, h => by rw [toValue] at h; cases h; exact .str s
  | .bytes bs, _, h => by rw [toValue] at h; cases h; exact .bytes bs
  | .absent, _, h => by rw [toValue] at h; cases h; exact .absent
  | .unit, _, h => by rw [toValue] at h; cases h; exact .unit
  | .variant name, _, h => by rw [toValue] at h; cases h; exact .variant name

theorem itemsDenote_of_itemValues : ∀ {items : List Data} {vs : List Value},
    itemValues items = .ok vs → ItemsDenote items vs
  | [], _, h => by
    rw [itemValues] at h
    cases h
    exact .nil
  | item :: rest, _, h => by
    rw [itemValues] at h
    obtain ⟨v, hv, h⟩ := bind_eq_ok.1 h
    obtain ⟨vs, hvs, h⟩ := bind_eq_ok.1 h
    cases h
    exact .cons (denotes_of_toValue hv) (itemsDenote_of_itemValues hvs)

/-- The entries of calls are written behind the fields that are there before. -/
theorem callsDenote_of_mapFields : ∀ {calls : List MapCall} {pending : Option String}
    {before fields : Fields Value}, mapFields pending before calls = .ok fields →
      ∃ entries, CallsDenote pending calls entries ∧ fields = before.update entries
  | [], pending, _, _, h => by
    rw [mapFields] at h
    cases h
    exact ⟨[], .nil pending, rfl⟩
  | .key data :: rest, pending, before, fields, h => by
    rw [mapFields] at h
    obtain ⟨v, hv, h⟩ := bind_eq_ok.1 h
    obtain ⟨key, hkey, h⟩ := bind_eq_ok.1 h
    obtain ⟨hkind, rfl⟩ := Value.key?_eq_ok_iff.1 hkey
    obtain ⟨entries, hentries, heq⟩ := callsDenote_of_mapFields h
    exact ⟨entries, .key (denotes_of_toValue hv) hkind hentries, heq⟩
  | .value data :: rest, pending, before, fields, h => by
    rw [mapFields] at h
    obtain ⟨v, hv, h⟩ := bind_eq_ok.1 h
    cases pending with
    | none => cases h
    | some key =>
      obtain ⟨entries, hentries, heq⟩ := callsDenote_of_mapFields h
      exact ⟨(key, v) :: entries, .value (denotes_of_toValue hv) hentries, heq⟩

theorem fieldsDenote_of_recordFields : ∀ {named : List (String × Data)} {before fields : Fields Value},
    recordFields before named = .ok fields → ∃ entries, FieldsDenote named entries ∧ fields = before.update entries
  | [], _, _, h => by
    rw [recordFields] at h
    cases h
    exact ⟨[], .nil, rfl⟩
  | (name, data) :: rest, _, _, h => by
    rw [recordFields] at h
    obtain ⟨v, hv, h⟩ := bind_eq_ok.1 h
    obtain ⟨entries, hentries, heq⟩ := fieldsDenote_of_recordFields h
    exact ⟨(name, v) :: entries, .cons (denotes_of_toValue hv) hentries, heq⟩

end

mutual

theorem Denotes.toValue_eq : ∀ {d : Data} {v : Value}, Denotes d v → d.toValue = .ok v
  | _, _, .bool _ | _, _, .signed _ | _, _, .unsigned _ | _, _, .single _ | _, _, .double _ | _, _, .char _
  | _, _, .str _ | _, _, .bytes _ | _, _, .absent | _, _, .unit | _, _, .variant _ => by rw [toValue]
  | _, _, .present h => by rw [toValue, h.toValue_eq]
  | _, _, .newtype h => by rw [toValue, h.toValue_eq]
  | _, _, .seq h => by rw [toValue, h.itemValues_eq, map_ok]
  | _, _, .map h hgathers => by rw [toValue, h.mapFields_eq, map_ok, Fields.gathers_iff.1 hgathers, Fields.ofList]
  | _, _, .record h hgathers => by
    rw [toValue, h.recordFields_eq, map_ok, Fields.gathers_iff.1 hgathers, Fields.ofList]

theorem ItemsDenote.itemValues_eq : ∀ {items : List Data} {vs : List Value},
    ItemsDenote items vs → itemValues items = .ok vs
  | _, _, .nil => by rw [itemValues]
  | _, _, .cons h hrest => by
    rw [itemValues, h.toValue_eq, ok_bind, hrest.itemValues_eq, ok_bind]
    rfl

theorem CallsDenote.mapFields_eq : ∀ {pending : Option String} {calls : List MapCall} {entries before : Fields Value},
    CallsDenote pending calls entries → mapFields pending before calls = .ok (before.update entries)
  | _, _, _, _, .nil _ => by
    rw [mapFields]
    rfl
  | _, _, _, _, .key h hkind hrest => by
    rw [mapFields, h.toValue_eq, ok_bind, Value.key?_eq_ok_iff.2 ⟨hkind, rfl⟩, ok_bind, hrest.mapFields_eq]
  | _, _, _, _, .value h hrest => by
    rw [mapFields, h.toValue_eq, ok_bind]
    exact hrest.mapFields_eq

theorem FieldsDenote.recordFields_eq : ∀ {named : List (String × Data)} {entries before : Fields Value},
    FieldsDenote named entries → recordFields before named = .ok (before.update entries)
  | _, _, _, .nil => by
    rw [recordFields]
    rfl
  | _, _, _, .cons h hrest => by
    rw [recordFields, h.toValue_eq, ok_bind]
    exact hrest.recordFields_eq

end

theorem toValue_eq_ok_iff {d : Data} {v : Value} : d.toValue = .ok v ↔ d.Denotes v :=
  ⟨denotes_of_toValue, Denotes.toValue_eq⟩

/-! ## Distinct keys -/

theorem keyed_ofNat (n : Nat) : (Value.ofNat n).Keyed := by
  unfold Value.ofNat
  split
  · exact .scalar nofun nofun
  · exact .scalar nofun nofun

/-- Entries that are gathered are among those that were written. -/
theorem keyed_of_gathers {entries fields : Fields Value} (hgathers : Fields.Gathers entries fields)
    (h : ∀ entry ∈ entries, entry.2.Keyed) : (Value.map fields).Keyed := by
  rw [Fields.gathers_iff] at hgathers
  subst hgathers
  refine .map (Fields.nodup_names_ofList entries) fun ⟨name, v⟩ hentry => ?_
  rcases Fields.mem_of_mem_update hentry with hentry | hentry
  · cases hentry
  · exact h _ hentry

mutual

theorem Denotes.keyed : ∀ {d : Data} {v : Value}, Denotes d v → v.Keyed
  | _, _, .bool _ | _, _, .signed _ | _, _, .single _ | _, _, .double _ | _, _, .char _ | _, _, .str _ | _, _, .absent
  | _, _, .unit | _, _, .variant _ => .scalar nofun nofun
  | _, _, .unsigned n => keyed_ofNat n.toNat
  | _, _, .bytes bs => by
    refine .list fun item hitem => ?_
    obtain ⟨b, -, rfl⟩ := List.mem_map.1 hitem
    exact .scalar nofun nofun
  | _, _, .present h | _, _, .newtype h => h.keyed
  | _, _, .seq h => .list h.keyed
  | _, _, .map h hgathers => keyed_of_gathers hgathers h.keyed
  | _, _, .record h hgathers => keyed_of_gathers hgathers h.keyed

theorem ItemsDenote.keyed : ∀ {items : List Data} {vs : List Value}, ItemsDenote items vs → ∀ v ∈ vs, v.Keyed
  | _, _, .nil => List.forall_mem_nil _
  | _, _, .cons h hrest => List.forall_mem_cons.2 ⟨h.keyed, hrest.keyed⟩

theorem CallsDenote.keyed : ∀ {pending : Option String} {calls : List MapCall} {entries : Fields Value},
    CallsDenote pending calls entries → ∀ entry ∈ entries, entry.2.Keyed
  | _, _, _, .nil _ => List.forall_mem_nil _
  | _, _, _, .key _ _ hrest => hrest.keyed
  | _, _, _, .value h hrest => List.forall_mem_cons.2 ⟨h.keyed, hrest.keyed⟩

theorem FieldsDenote.keyed : ∀ {named : List (String × Data)} {entries : Fields Value},
    FieldsDenote named entries → ∀ entry ∈ entries, entry.2.Keyed
  | _, _, .nil => List.forall_mem_nil _
  | _, _, .cons h hrest => List.forall_mem_cons.2 ⟨h.keyed, hrest.keyed⟩

end

/-! ## Wrappers -/

mutual

/-- The data without any wrappers, at whatever depth. -/
def bare : Data → Data
  | .present content | .newtype content => content.bare
  | .seq items => .seq (bareItems items)
  | .map calls => .map (bareCalls calls)
  | .record fields => .record (bareFields fields)
  | d => d

def bareItems : List Data → List Data
  | [] => []
  | item :: rest => item.bare :: bareItems rest

def bareCalls : List MapCall → List MapCall
  | [] => []
  | .key data :: rest => .key data.bare :: bareCalls rest
  | .value data :: rest => .value data.bare :: bareCalls rest

def bareFields : List (String × Data) → List (String × Data)
  | [] => []
  | (name, data) :: rest => (name, data.bare) :: bareFields rest

end

mutual

theorem toValue_bare : ∀ d : Data, d.bare.toValue = d.toValue
  | .present content => by rw [bare, toValue, toValue_bare content]
  | .newtype content => by rw [bare, toValue, toValue_bare content]
  | .seq items => by rw [bare, toValue, toValue, itemValues_bareItems items]
  | .map calls => by rw [bare, toValue, toValue, mapFields_bareCalls calls]
  | .record fields => by rw [bare, toValue, toValue, recordFields_bareFields fields]
  | .wide _ | .failure _ | .bool _ | .signed _ | .unsigned _ | .single _ | .double _ | .char _ | .str _ | .bytes _
  | .absent | .unit | .variant _ => by simp only [bare]

theorem itemValues_bareItems : ∀ items : List Data, itemValues (bareItems items) = itemValues items
  | [] => by rw [bareItems]
  | item :: rest => by rw [bareItems, itemValues, itemValues, toValue_bare item, itemValues_bareItems rest]

theorem mapFields_bareCalls : ∀ (calls : List MapCall) {pending : Option String} {before : Fields Value},
    mapFields pending before (bareCalls calls) = mapFields pending before calls
  | [], _, _ => by rw [bareCalls]
  | .key data :: rest, _, _ => by
    simp only [bareCalls, mapFields, toValue_bare data, mapFields_bareCalls rest]
  | .value data :: rest, _, _ => by
    simp only [bareCalls, mapFields, toValue_bare data, mapFields_bareCalls rest]

theorem recordFields_bareFields : ∀ (named : List (String × Data)) {before : Fields Value},
    recordFields before (bareFields named) = recordFields before named
  | [], _ => by rw [bareFields]
  | (name, data) :: rest, _ => by
    simp only [bareFields, recordFields, toValue_bare data, recordFields_bareFields rest]

end

/-- Data becomes a value just when no place in it offends; otherwise the first fault in the order of the calls is
reported, and those that the order lists are those of all places. What it becomes is what it denotes, in which all
maps have distinct keys; and wrappers make no difference. -/
theorem toValue_exact (d : Data) :
    ((∃ v, d.toValue = .ok v) ↔ ∀ part fault, d.Holds part → ¬ part.Offends fault) ∧
    (∀ fault, d.toValue = .error fault ↔ d.faults.head? = some fault) ∧
    (∀ fault, fault ∈ d.faults ↔ ∃ part, d.Holds part ∧ part.Offends fault) ∧
    (∀ v, d.toValue = .ok v ↔ d.Denotes v) ∧ (∀ v, d.Denotes v → v.Keyed) ∧ d.bare.toValue = d.toValue := by
  refine ⟨exists_toValue_iff.trans ?_, d.toValue_stops.error_iff, fun fault => mem_faults_iff fault d,
    fun v => toValue_eq_ok_iff, fun v => Denotes.keyed, d.toValue_bare⟩
  constructor
  · exact fun h part fault hpart hoffends => h fault ⟨part, hpart, hoffends⟩
  · rintro h fault ⟨part, hpart, hoffends⟩
    exact h part fault hpart hoffends

/-- A number and its digits are the same key. -/
example : (Data.map [.key (.signed 1), .value .unit, .key (.str "a"), .value .unit, .key (.str "1"),
    .value (.present (.bool true))]).toValue = .ok (.map [("1", .bool true), ("a", .null)]) := rfl

end Data

/-! ## Values as data -/

namespace Value

mutual

theorem toValue_toData : ∀ {v : Value}, v.Keyed → v.toData.toValue = .ok v
  | .null, _ | .bool _, _ | .int _, _ | .float _, _ | .str _, _ => by rw [toData, Data.toValue]
  | .list items, h => by
    cases h with
    | scalar hlist => exact absurd rfl hlist
    | list hitems => rw [toData, Data.toValue, itemValues_itemData hitems, map_ok]
  | .map fields, h => by
    cases h with
    | scalar _ hmap => exact absurd rfl hmap
    | map hnames hfields => rw [toData, Data.toValue, mapFields_fieldCalls [] hfields hnames, map_ok, List.nil_append]

theorem itemValues_itemData : ∀ {items : List Value}, (∀ item ∈ items, item.Keyed) →
    Data.itemValues (itemData items) = .ok items
  | [], _ => by rw [itemData, Data.itemValues]
  | item :: rest, h => by
    obtain ⟨hitem, hrest⟩ := List.forall_mem_cons.1 h
    rw [itemData, Data.itemValues, toValue_toData hitem, ok_bind, itemValues_itemData hrest]
    rfl

/-- The entries of a map come behind those that are written before, as long as no key is written twice. -/
theorem mapFields_fieldCalls : ∀ {fields : Fields Value} (before : Fields Value),
    (∀ entry ∈ fields, entry.2.Keyed) → (Fields.names (before ++ fields)).Nodup →
    Data.mapFields none before (fieldCalls fields) = .ok (before ++ fields)
  | [], before, _, _ => by rw [fieldCalls, Data.mapFields, List.append_nil]
  | (key, v) :: rest, before, h, hnames => by
    obtain ⟨hv, hrest⟩ := List.forall_mem_cons.1 h
    have hassoc : before ++ (key, v) :: rest = (before ++ [(key, v)]) ++ rest := by simp
    -- the key is in none of the entries before, so its entry is not written over one of them
    have hnew : key ∉ Fields.names before := fun hmem => by
      rw [Fields.names, List.map_append, List.nodup_append] at hnames
      exact hnames.2.2 key hmem key List.mem_cons_self rfl
    rw [hassoc] at hnames ⊢
    rw [fieldCalls, Data.mapFields, Data.toValue, ok_bind]
    show (Data.mapFields (some key) before (.value v.toData :: fieldCalls rest)) = _
    rw [Data.mapFields, toValue_toData hv, ok_bind]
    show Data.mapFields none (Fields.insert key v before) (fieldCalls rest) = _
    rw [Fields.insert_of_not_mem v hnew]
    exact mapFields_fieldCalls _ hrest hnames

end

/-- A value is got back from its description just when all maps in it have distinct keys. -/
theorem toValue_toData_iff (v : Value) : v.toData.toValue = .ok v ↔ v.Keyed :=
  ⟨fun h => (Data.denotes_of_toValue h).keyed, toValue_toData⟩

end Value

end PageTemplate
