/-
What keeps data from becoming a value: a description that fails by itself, an integer that is too wide, a key
of a kind that no key can have, and a value of a map without a key that waits for it. Data becomes a value just
when it holds none of these, at whatever depth; otherwise the first one in the order of the calls is reported.

The faults are listed apart from the conversion, and every part of the conversion is shown to stop at the first
fault of its list, so the lists of parts that follow each other are appended.
-/
import Mathlib.Tactic.Common
import PageTemplate.Data
import PageTemplate.Proofs.Outcome

namespace PageTemplate

/-- Can a value of this kind be a key? -/
def Kind.isKey : Kind → Bool
  | .bool | .int | .float | .str => true
  | .null | .list | .map => false

/-- A key is the text of its value. -/
theorem Value.key?_eq_ok_iff {v : Value} {key : String} :
    v.key? = .ok key ↔ v.kind.isKey = true ∧ key = String.ofList v.text := by
  cases v <;> simp [Value.key?, Value.kind, Kind.isKey, Value.text, eq_comm]

theorem Value.key?_eq_error {v : Value} (h : v.kind.isKey = false) : v.key? = .error (.keyKind v.kind) := by
  cases v <;> first | rfl | cases h

namespace Data

/-- The kind of the value that data becomes. It shows in the form of the data. -/
def kind? : Data → Option Kind
  | .wide _ | .failure _ => none
  | .bool _ => some .bool
  | .signed _ => some .int
  | .unsigned n => some (Value.ofNat n.toNat).kind
  | .single _ | .double _ => some .float
  | .char _ | .str _ | .variant _ => some .str
  | .absent | .unit => some .null
  | .bytes _ | .seq _ => some .list
  | .map _ | .record _ => some .map
  | .present content | .newtype content => content.kind?

theorem kind?_of_toValue : ∀ {d : Data} {v : Value}, d.toValue = .ok v → d.kind? = some v.kind
  | .present content, _, h => by
    rw [toValue] at h
    rw [kind?, kind?_of_toValue h]
  | .newtype content, _, h => by
    rw [toValue] at h
    rw [kind?, kind?_of_toValue h]
  | .seq items, _, h => by
    rw [toValue] at h
    obtain ⟨vs, -, rfl⟩ := map_eq_ok.1 h
    rfl
  | .map calls, _, h => by
    rw [toValue] at h
    obtain ⟨fields, -, rfl⟩ := map_eq_ok.1 h
    rfl
  | .record fields, _, h => by
    rw [toValue] at h
    obtain ⟨fields, -, rfl⟩ := map_eq_ok.1 h
    rfl
  | .wide _, _, h | .failure _, _, h => by
    rw [toValue] at h
    cases h
  | .bool _, _, h | .signed _, _, h | .unsigned _, _, h | .single _, _, h | .double _, _, h | .char _, _, h
  | .str _, _, h | .bytes _, _, h | .absent, _, h | .unit, _, h | .variant _, _, h => by
    rw [toValue] at h
    cases h
    rfl

end Data

/-! ## Places that offend -/

namespace MapCall

def data : MapCall → Data
  | .key data | .value data => data

def isKey : MapCall → Bool
  | .key _ => true
  | .value _ => false

end MapCall

namespace Data

/-- The data `part` is the whole or stands somewhere in it. -/
inductive Holds : Data → Data → Prop
  | whole (d : Data) : Holds d d
  | present {content part : Data} : Holds content part → Holds (.present content) part
  | newtype {content part : Data} : Holds content part → Holds (.newtype content) part
  | item {items : List Data} {item part : Data} : item ∈ items → Holds item part → Holds (.seq items) part
  | call {calls : List MapCall} {call : MapCall} {part : Data} :
      call ∈ calls → Holds call.data part → Holds (.map calls) part
  | field {fields : List (String × Data)} {name : String} {data part : Data} :
      (name, data) ∈ fields → Holds data part → Holds (.record fields) part

end Data

/-- Does a key wait for its value after some calls? It does if the last one was a key; without a call it is as
before. -/
def keyWaits (pending : Bool) (calls : List MapCall) : Bool := (calls.getLast?.map MapCall.isKey).getD pending

/-- Some value is given where no key waits for it. -/
def Unkeyed (pending : Bool) (calls : List MapCall) : Prop :=
  ∃ before data behind, calls = before ++ .value data :: behind ∧ keyWaits pending before = false

theorem keyWaits_cons (pending : Bool) (call : MapCall) (calls : List MapCall) :
    keyWaits pending (call :: calls) = keyWaits call.isKey calls := by
  unfold keyWaits
  rw [List.getLast?_cons]
  cases calls.getLast? <;> rfl

theorem not_unkeyed_nil (pending : Bool) : ¬ Unkeyed pending [] := by
  rintro ⟨before, data, behind, heq, -⟩
  simp at heq

theorem unkeyed_cons_iff {pending : Bool} {call : MapCall} {rest : List MapCall} :
    Unkeyed pending (call :: rest) ↔ call.isKey = false ∧ pending = false ∨ Unkeyed call.isKey rest := by
  constructor
  · rintro ⟨before, data, behind, heq, hwaits⟩
    rcases List.cons_eq_append_iff.1 heq with ⟨rfl, hcall⟩ | ⟨before', rfl, hrest⟩
    · cases hcall
      exact .inl ⟨rfl, hwaits⟩
    · rw [keyWaits_cons] at hwaits
      exact .inr ⟨before', data, behind, hrest, hwaits⟩
  · rintro (⟨hcall, hpending⟩ | ⟨before, data, behind, rfl, hwaits⟩)
    · cases call with
      | key => cases hcall
      | value data => exact ⟨[], data, rest, rfl, hpending⟩
    · exact ⟨call :: before, data, behind, rfl, (keyWaits_cons pending call before).trans hwaits⟩

namespace Data

/-- The data itself, apart from what it holds, cannot become a value. -/
inductive Offends : Data → DataFault → Prop
  | failure (message : String) : Offends (.failure message) (.custom message)
  | wide (i : Int) : Offends (.wide i) .wideInteger
  | key {calls : List MapCall} {data : Data} {kind : Kind} :
      .key data ∈ calls → data.kind? = some kind → kind.isKey = false → Offends (.map calls) (.keyKind kind)
  | value {calls : List MapCall} : Unkeyed false calls → Offends (.map calls) .missingKey

/-- Somewhere in the data is a place with the fault. -/
def HasFault (d : Data) (fault : DataFault) : Prop := ∃ part, d.Holds part ∧ part.Offends fault

/-! ## The faults in order -/

/-- The fault of data that is given as a key, apart from those inside it. -/
def keyFaults (d : Data) : List DataFault :=
  match d.kind? with
  | some kind => if kind.isKey then [] else [.keyKind kind]
  | none => []

end Data

/-- The fault of a call as such, which only a key can have. -/
def MapCall.ownFaults : MapCall → List DataFault
  | .key data => data.keyFaults
  | .value _ => []

namespace Data

mutual

/-- The faults of all places, in the order of the calls. -/
def faults : Data → List DataFault
  | .wide _ => [.wideInteger]
  | .failure message => [.custom message]
  | .present content | .newtype content => content.faults
  | .seq items => itemFaults items
  | .map calls => callFaults false calls
  | .record fields => fieldFaults fields
  | _ => []

def itemFaults : List Data → List DataFault
  | [] => []
  | item :: rest => item.faults ++ itemFaults rest

/-- The faults of calls: those inside a key or a value come before its own. -/
def callFaults (pending : Bool) : List MapCall → List DataFault
  | [] => []
  | .key data :: rest => data.faults ++ (data.keyFaults ++ callFaults true rest)
  | .value data :: rest => data.faults ++ ((if pending then [] else [.missingKey]) ++ callFaults false rest)

def fieldFaults : List (String × Data) → List DataFault
  | [] => []
  | (_, data) :: rest => data.faults ++ fieldFaults rest

end

section

variable {fault : DataFault} {content : Data} {items : List Data} {calls : List MapCall}
  {fields : List (String × Data)}

theorem mem_keyFaults_iff {d : Data} :
    fault ∈ d.keyFaults ↔ ∃ kind, d.kind? = some kind ∧ kind.isKey = false ∧ fault = .keyKind kind := by
  unfold keyFaults
  cases d.kind? with
  | none => simp
  | some kind => cases hkey : kind.isKey <;> simp [hkey]

theorem hasFault_present_iff : HasFault (.present content) fault ↔ content.HasFault fault := by
  constructor
  · rintro ⟨part, hpart, h⟩
    cases hpart with
    | whole => cases h
    | present hpart => exact ⟨part, hpart, h⟩
  · rintro ⟨part, hpart, h⟩
    exact ⟨part, .present hpart, h⟩

theorem hasFault_newtype_iff : HasFault (.newtype content) fault ↔ content.HasFault fault := by
  constructor
  · rintro ⟨part, hpart, h⟩
    cases hpart with
    | whole => cases h
    | newtype hpart => exact ⟨part, hpart, h⟩
  · rintro ⟨part, hpart, h⟩
    exact ⟨part, .newtype hpart, h⟩

theorem hasFault_seq_iff : HasFault (.seq items) fault ↔ ∃ item ∈ items, item.HasFault fault := by
  constructor
  · rintro ⟨part, hpart, h⟩
    cases hpart with
    | whole => cases h
    | item hitem hpart => exact ⟨_, hitem, part, hpart, h⟩
  · rintro ⟨item, hitem, part, hpart, h⟩
    exact ⟨part, .item hitem hpart, h⟩

theorem hasFault_map_iff : HasFault (.map calls) fault ↔
    (∃ call ∈ calls, call.data.HasFault fault ∨ fault ∈ call.ownFaults) ∨
      Unkeyed false calls ∧ fault = .missingKey := by
  constructor
  · rintro ⟨part, hpart, h⟩
    cases hpart with
    | whole =>
      cases h with
      | key hdata hkind hkey => exact .inl ⟨_, hdata, .inr (mem_keyFaults_iff.2 ⟨_, hkind, hkey, rfl⟩)⟩
      | value hunkeyed => exact .inr ⟨hunkeyed, rfl⟩
    | call hcall hpart => exact .inl ⟨_, hcall, .inl ⟨part, hpart, h⟩⟩
  · rintro (⟨call, hcall, ⟨part, hpart, h⟩ | hfault⟩ | ⟨hunkeyed, rfl⟩)
    · exact ⟨part, .call hcall hpart, h⟩
    · cases call with
      | value => cases hfault
      | key data =>
        obtain ⟨kind, hkind, hkey, rfl⟩ := mem_keyFaults_iff.1 hfault
        exact ⟨_, .whole _, .key hcall hkind hkey⟩
    · exact ⟨_, .whole _, .value hunkeyed⟩

theorem hasFault_record_iff : HasFault (.record fields) fault ↔ ∃ entry ∈ fields, entry.2.HasFault fault := by
  constructor
  · rintro ⟨part, hpart, h⟩
    cases hpart with
    | whole => cases h
    | field hdata hpart => exact ⟨_, hdata, part, hpart, h⟩
  · rintro ⟨⟨name, data⟩, hdata, part, hpart, h⟩
    exact ⟨part, .field hdata hpart, h⟩

end

mutual

/-- The list has the faults of all places. -/
theorem mem_faults_iff (fault : DataFault) : ∀ d : Data, fault ∈ d.faults ↔ d.HasFault fault
  | .wide i => by
    rw [faults, List.mem_singleton]
    constructor
    · rintro rfl
      exact ⟨_, .whole _, .wide i⟩
    · rintro ⟨_, ⟨⟩, ⟨⟩⟩
      rfl
  | .failure message => by
    rw [faults, List.mem_singleton]
    constructor
    · rintro rfl
      exact ⟨_, .whole _, .failure message⟩
    · rintro ⟨_, ⟨⟩, ⟨⟩⟩
      rfl
  | .present content => by rw [faults, mem_faults_iff fault content, hasFault_present_iff]
  | .newtype content => by rw [faults, mem_faults_iff fault content, hasFault_newtype_iff]
  | .seq items => by rw [faults, mem_itemFaults_iff fault items, hasFault_seq_iff]
  | .map calls => by rw [faults, mem_callFaults_iff fault false calls, hasFault_map_iff]
  | .record fields => by rw [faults, mem_fieldFaults_iff fault fields, hasFault_record_iff]
  | .bool _ | .signed _ | .unsigned _ | .single _ | .double _ | .char _ | .str _ | .bytes _ | .absent | .unit
  | .variant _ => by
    simp only [faults, List.not_mem_nil, false_iff]
    rintro ⟨_, ⟨⟩, ⟨⟩⟩

theorem mem_itemFaults_iff (fault : DataFault) : ∀ items : List Data,
    fault ∈ itemFaults items ↔ ∃ item ∈ items, item.HasFault fault
  | [] => by simp [itemFaults]
  | item :: rest => by simp [itemFaults, mem_faults_iff fault item, mem_itemFaults_iff fault rest]

theorem mem_callFaults_iff (fault : DataFault) (pending : Bool) : ∀ calls : List MapCall,
    fault ∈ callFaults pending calls ↔
      (∃ call ∈ calls, call.data.HasFault fault ∨ fault ∈ call.ownFaults) ∨
        Unkeyed pending calls ∧ fault = .missingKey
  | [] => by simp [callFaults, not_unkeyed_nil]
  | .key data :: rest => by
    simp [callFaults, mem_faults_iff fault data, mem_callFaults_iff fault true rest, unkeyed_cons_iff, MapCall.data,
      MapCall.isKey, MapCall.ownFaults, or_assoc]
  | .value data :: rest => by
    have hrest := mem_callFaults_iff fault false rest
    cases pending with
    | true => simp [callFaults, mem_faults_iff fault data, hrest, unkeyed_cons_iff, MapCall.data, MapCall.isKey,
        MapCall.ownFaults, or_assoc]
    | false =>
      by_cases hmissing : fault = .missingKey <;>
        simp [callFaults, mem_faults_iff fault data, hrest, unkeyed_cons_iff, MapCall.data, MapCall.isKey,
          MapCall.ownFaults, hmissing]

theorem mem_fieldFaults_iff (fault : DataFault) : ∀ fields : List (String × Data),
    fault ∈ fieldFaults fields ↔ ∃ entry ∈ fields, entry.2.HasFault fault
  | [] => by simp [fieldFaults]
  | (name, data) :: rest => by
    simp only [fieldFaults, List.mem_append, mem_faults_iff fault data, mem_fieldFaults_iff fault rest,
      List.exists_mem_cons_iff]

end

/-! ## The conversion stops at the first fault -/

/-- The outcome of a computation that stops at the first of some faults. -/
inductive Stops {α : Type} : Except DataFault α → List DataFault → Prop
  | ok (a : α) : Stops (.ok a) []
  | error (fault : DataFault) (rest : List DataFault) : Stops (.error fault) (fault :: rest)

namespace Stops

variable {α β : Type} {x : Except DataFault α} {faults : List DataFault}

theorem exists_ok_iff (h : Stops x faults) : (∃ a, x = .ok a) ↔ faults = [] := by
  cases h <;> simp

theorem error_iff (h : Stops x faults) (fault : DataFault) : x = .error fault ↔ faults.head? = some fault := by
  cases h <;> simp

/-- What comes first stops first. -/
theorem bind {f : α → Except DataFault β} {more : List DataFault} (h : Stops x faults)
    (hf : ∀ a, x = .ok a → Stops (f a) more) : Stops (x >>= f) (faults ++ more) := by
  cases h with
  | ok a => exact hf a rfl
  | error fault rest => exact .error fault (rest ++ more)

theorem map (h : Stops x faults) (f : α → β) : Stops (f <$> x) faults := by
  cases h with
  | ok a => exact .ok (f a)
  | error fault rest => exact .error fault rest

end Stops

theorem key?_stops {d : Data} {v : Value} (h : d.toValue = .ok v) : Stops v.key? d.keyFaults := by
  unfold keyFaults
  rw [kind?_of_toValue h]
  by_cases hkey : v.kind.isKey = true
  · rw [Value.key?_eq_ok_iff.2 ⟨hkey, rfl⟩]
    simp only [hkey, if_true]
    exact .ok _
  · rw [Bool.not_eq_true] at hkey
    rw [Value.key?_eq_error hkey]
    simp only [hkey, Bool.false_eq_true, if_false]
    exact .error _ _

mutual

theorem toValue_stops : ∀ d : Data, Stops d.toValue d.faults
  | .wide i => by rw [toValue, faults]; exact .error _ _
  | .failure message => by rw [toValue, faults]; exact .error _ _
  | .present content => by rw [toValue, faults]; exact toValue_stops content
  | .newtype content => by rw [toValue, faults]; exact toValue_stops content
  | .seq items => by rw [toValue, faults]; exact (itemValues_stops items).map _
  | .map calls => by rw [toValue, faults]; exact (mapFields_stops none [] calls).map _
  | .record fields => by rw [toValue, faults]; exact (recordFields_stops [] fields).map _
  | .bool _ | .signed _ | .unsigned _ | .single _ | .double _ | .char _ | .str _ | .bytes _ | .absent | .unit
  | .variant _ => by
    simp only [toValue, faults]
    exact .ok _

theorem itemValues_stops : ∀ items : List Data, Stops (itemValues items) (itemFaults items)
  | [] => .ok []
  | item :: rest => by
    rw [itemValues, itemFaults]
    refine (toValue_stops item).bind fun v _ => ?_
    exact (itemValues_stops rest).map (v :: ·)

theorem mapFields_stops (pending : Option String) (fields : Fields Value) :
    ∀ calls : List MapCall, Stops (mapFields pending fields calls) (callFaults pending.isSome calls)
  | [] => .ok fields
  | .key data :: rest => by
    rw [mapFields, callFaults]
    refine (toValue_stops data).bind fun v hv => ?_
    exact (key?_stops hv).bind fun key _ => mapFields_stops (some key) fields rest
  | .value data :: rest => by
    rw [mapFields, callFaults]
    refine (toValue_stops data).bind fun v _ => ?_
    -- only behind the faults inside the value is its key missed
    cases pending with
    | none => exact .error _ _
    | some key => exact mapFields_stops none (fields.insert key v) rest

theorem recordFields_stops (fields : Fields Value) :
    ∀ entries : List (String × Data), Stops (recordFields fields entries) (fieldFaults entries)
  | [] => .ok fields
  | (name, data) :: rest => by
    rw [recordFields, fieldFaults]
    exact (toValue_stops data).bind fun v _ => recordFields_stops (fields.insert name v) rest

end

/-- Data becomes a value just when no place in it offends. -/
theorem exists_toValue_iff {d : Data} : (∃ v, d.toValue = .ok v) ↔ ∀ fault, ¬ d.HasFault fault := by
  rw [d.toValue_stops.exists_ok_iff, List.eq_nil_iff_forall_not_mem]
  exact forall_congr' fun fault => not_congr (mem_faults_iff fault d)

end Data

end PageTemplate
