/-
Registration of templates. It succeeds just if all names are new: none is in the library and none comes twice.
Then the entries are in the library behind those that it had. Otherwise the first name that is not new ends it.
The entries in front of it are in the library then, and those behind it are not; but the text that came with the
name itself is there in place of the one that the name had, for it is written before it is looked at.
-/
import Mathlib.Tactic.Common
import PageTemplate.Proofs.Fields
import PageTemplate.Source.Library

namespace PageTemplate.Library

variable {library : Library} {name text : String} {entries before after : List (String × String)}

/-- The names of the entries are new to the library and to each other. -/
structure Fresh (library : Library) (entries : List (String × String)) : Prop where
  distinct : (Fields.names entries).Nodup
  absent : ∀ name ∈ Fields.names entries, name ∉ Fields.names library

theorem fresh_nil (library : Library) : Fresh library [] := ⟨List.nodup_nil, List.forall_mem_nil _⟩

/-- A first entry is new if its name is, and the others have to be new to it too. -/
theorem fresh_cons_iff : Fresh library ((name, text) :: entries) ↔
    name ∉ Fields.names library ∧ Fresh (library ++ [(name, text)]) entries := by
  have hlater (m : String) :
      m ∉ Fields.names (library ++ [(name, text)]) ↔ m ∉ Fields.names library ∧ m ≠ name := by
    simp [Fields.names, not_or]
  constructor
  · rintro ⟨hdistinct, habsent⟩
    obtain ⟨hname, hdistinct⟩ := List.nodup_cons.1 hdistinct
    obtain ⟨hfirst, habsent⟩ := List.forall_mem_cons.1 habsent
    refine ⟨hfirst, hdistinct, fun m hm => (hlater m).2 ⟨habsent m hm, ?_⟩⟩
    rintro rfl
    exact hname hm
  · rintro ⟨hfirst, hdistinct, habsent⟩
    refine ⟨List.nodup_cons.2 ⟨fun hmem => ((hlater name).1 (habsent name hmem)).2 rfl, hdistinct⟩, ?_⟩
    exact List.forall_mem_cons.2 ⟨hfirst, fun m hm => ((hlater m).1 (habsent m hm)).1⟩

/-! ## One entry -/

theorem register_cons_of_not_mem (h : name ∉ Fields.names library) :
    register library ((name, text) :: entries) = register (library ++ [(name, text)]) entries := by
  rw [register, Fields.get?_eq_none_iff.2 h, Fields.insert_of_not_mem text h]

theorem register_cons_of_mem (h : name ∈ Fields.names library) :
    register library ((name, text) :: entries) =
      (.error (.duplicate name), Fields.insert name text library) := by
  obtain ⟨old, hold⟩ := Fields.mem_names_iff.1 h
  rw [register, hold]

/-! ## All entries -/

theorem register_of_fresh : ∀ {entries : List (String × String)} {library : Library}, Fresh library entries →
    register library entries = (.ok (), library ++ entries)
  | [], library, _ => by rw [register, List.append_nil]
  | (name, text) :: rest, library, h => by
    obtain ⟨hname, hrest⟩ := fresh_cons_iff.1 h
    rw [register_cons_of_not_mem hname, register_of_fresh hrest, List.append_assoc, List.singleton_append]

/-- The first name that is not new ends the registration, and its text is written. -/
theorem register_of_known : ∀ {before : List (String × String)} {library : Library}, Fresh library before →
    name ∈ Fields.names (library ++ before) →
    register library (before ++ (name, text) :: after) =
      (.error (.duplicate name), Fields.insert name text (library ++ before))
  | [], library, _, hname => by
    rw [List.append_nil] at hname ⊢
    exact register_cons_of_mem hname
  | (n, t) :: rest, library, h, hname => by
    obtain ⟨hn, hrest⟩ := fresh_cons_iff.1 h
    have hsplit : library ++ (n, t) :: rest = library ++ [(n, t)] ++ rest := by
      rw [List.append_assoc, List.singleton_append]
    rw [hsplit] at hname ⊢
    rw [List.cons_append, register_cons_of_not_mem hn]
    exact register_of_known hrest hname

/-- Where the names are not all new, there is a first one that is not. -/
theorem exists_first_known : ∀ {entries : List (String × String)} {library : Library}, ¬ Fresh library entries →
    ∃ before name text after, entries = before ++ (name, text) :: after ∧ Fresh library before ∧
      name ∈ Fields.names (library ++ before)
  | [], library, h => absurd (fresh_nil library) h
  | (name, text) :: rest, library, h => by
    by_cases hname : name ∈ Fields.names library
    · exact ⟨[], name, text, rest, rfl, fresh_nil library, by rwa [List.append_nil]⟩
    · have hrest : ¬ Fresh (library ++ [(name, text)]) rest := fun hrest => h (fresh_cons_iff.2 ⟨hname, hrest⟩)
      obtain ⟨before, m, t, after, rfl, hbefore, hm⟩ := exists_first_known hrest
      refine ⟨(name, text) :: before, m, t, after, rfl, fresh_cons_iff.2 ⟨hname, hbefore⟩, ?_⟩
      rwa [List.append_assoc, List.singleton_append] at hm

/-- New entries behind a library do not hide what it has. -/
theorem source_append (h : name ∈ Fields.names library) (entries : List (String × String)) :
    source (library ++ entries) name = library.source name := by
  obtain ⟨text, htext⟩ := Fields.mem_names_iff.1 h
  have hfound : Fields.get? name (library ++ entries) = some text := by
    rw [Fields.get?_append, htext, Option.some_or]
  rw [source, source, hfound, htext]

/-- Registration succeeds just if the names of the entries are distinct and none is in the library, and then it
adds the entries and nothing else. If it fails, it is for the first name that is not new: what is in front of it
has been added, and of the templates that were there before all but the one of this name are as they were. That
one has the refused text. -/
theorem register_ends_at_known_name (library : Library) (entries : List (String × String)) :
    ((register library entries).1 = .ok () ↔ Fresh library entries) ∧
    ((register library entries).1 = .ok () → (register library entries).2 = library ++ entries) ∧
    ∀ fault, (register library entries).1 = .error fault →
      ∃ before name text after, entries = before ++ (name, text) :: after ∧ Fresh library before ∧
        name ∈ Fields.names (library ++ before) ∧ fault = .duplicate name ∧
        (register library entries).2 = Fields.insert name text (library ++ before) ∧
        (register library entries).2.source name = .ok text ∧
        ∀ m ∈ Fields.names library, m ≠ name → (register library entries).2.source m = library.source m := by
  by_cases hfresh : Fresh library entries
  · rw [register_of_fresh hfresh]
    exact ⟨⟨fun _ => hfresh, fun _ => rfl⟩, fun _ => rfl, nofun⟩
  · obtain ⟨before, name, text, after, hentries, hbefore, hname⟩ := exists_first_known hfresh
    have hregister : register library entries =
        (.error (.duplicate name), Fields.insert name text (library ++ before)) := by
      rw [hentries]
      exact register_of_known hbefore hname
    rw [hregister]
    refine ⟨⟨nofun, fun h => absurd h hfresh⟩, nofun, fun fault hfault => ?_⟩
    refine ⟨before, name, text, after, hentries, hbefore, hname, (Except.error.inj hfault).symm, rfl, ?_,
      fun m hm hne => ?_⟩
    · rw [source, Fields.get?_insert_self]
    · rw [← source_append hm before, source, source, Fields.get?_insert_of_ne hne]

example : register [("a", "1")] [("b", "2"), ("c", "3"), ("b", "4"), ("d", "5")] =
    (.error (.duplicate "b"), [("a", "1"), ("b", "4"), ("c", "3")]) := by
  decide

/-- A refused text replaces the one that was registered before. -/
theorem register_replaces_known_text :
    let library : Library := [("page", "first")]
    let registered := library.register [("page", "second")]
    library.source "page" = .ok "first" ∧ registered.1 = .error (.duplicate "page") ∧
      registered.2.source "page" = .ok "second" :=
  ⟨rfl, rfl, rfl⟩

end PageTemplate.Library
