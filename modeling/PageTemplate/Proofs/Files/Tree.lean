/-
Trees of files: what putting an entry into a directory does to the other places of the tree. A place is
the list of names that lead to it. Everything that was in the tree is still there and is of its kind, and
as long as neither the new entry nor the one that it replaces has anything below it, all files but the one
at its place are the same.
-/
import Mathlib.Tactic.Common
import PageTemplate.Files.FileSystem
import PageTemplate.Proofs.Fields

namespace PageTemplate.Entry

def file? : Entry → Option ByteArray
  | .file content => some content
  | .directory _ => none

def isDirectory : Entry → Bool
  | .file _ => false
  | .directory _ => true

/-- The content of the file at a place. -/
def fileAt (root : Entry) (place : List String) : Option ByteArray := (root.find? place).bind file?

/-- Nothing is below the entry: it is a file, or a directory without entries. -/
def IsLeaf (entry : Entry) : Prop := ∀ name names, entry.find? (name :: names) = none

variable {root new : Entry} {place other : List String} {name : String} {entries : List (String × Entry)}

theorem isLeaf_file (content : ByteArray) : (Entry.file content).IsLeaf := fun _ _ => rfl

theorem isLeaf_empty : (Entry.directory []).IsLeaf := fun _ _ => rfl

theorem find?_directory_cons (name : String) (names : List String) :
    (Entry.directory entries).find? (name :: names) =
      (Fields.get? name entries).bind (find? names) := by
  rw [find?]
  cases Fields.get? name entries <;> rfl

/-- A directory below another one is behind an entry of that one. -/
theorem exists_entry_of_find?_cons {step : String} {steps : List String} {e : Entry}
    (h : root.find? (step :: steps) = some e) :
    ∃ outer entry, root = .directory outer ∧ Fields.get? step outer = some entry ∧
      entry.find? steps = some e := by
  cases root with
  | file => cases h
  | directory outer =>
    rw [find?_directory_cons, Option.bind_eq_some_iff] at h
    obtain ⟨entry, hentry, h⟩ := h
    exact ⟨outer, entry, rfl, hentry, h⟩

theorem put_cons {step : String} {steps : List String} {entry : Entry}
    (h : Fields.get? step entries = some entry) :
    put name new (step :: steps) (.directory entries) =
      .directory (Fields.insert step (put name new steps entry) entries) := by
  rw [put, h]

theorem find?_append {names : List String} :
    ∀ {place : List String} {root : Entry},
      root.find? (place ++ names) = (root.find? place).bind (find? names)
  | [], _ => rfl
  | _ :: _, .file _ => rfl
  | step :: steps, .directory outer => by
    rw [List.cons_append, find?_directory_cons, find?_directory_cons]
    cases Fields.get? step outer with
    | none => rfl
    | some entry =>
      show entry.find? (steps ++ names) = _
      exact find?_append

/-- What is in the directory at a place. -/
theorem find?_append_name (h : root.find? place = some (.directory entries)) :
    root.find? (place ++ [name]) = Fields.get? name entries := by
  rw [find?_append, h, Option.bind_some, find?_directory_cons]
  cases Fields.get? name entries <;> rfl

theorem find?_put : ∀ {place : List String} {root : Entry}, root.find? place = some (.directory entries) →
    (put name new place root).find? place = some (.directory (Fields.insert name new entries))
  | [], _, h => by
    cases h
    rfl
  | step :: steps, _, h => by
    obtain ⟨outer, entry, rfl, hentry, hbelow⟩ := exists_entry_of_find?_cons h
    rw [put_cons hentry, find?_directory_cons, Fields.get?_insert_self]
    exact find?_put hbelow

/-- Other files are as they were. -/
theorem fileAt_put_of_ne (hnew : new.IsLeaf) (hold : ∀ e, Fields.get? name entries = some e → e.IsLeaf) :
    ∀ {place other : List String} {root : Entry}, root.find? place = some (.directory entries) →
      other ≠ place ++ [name] → (put name new place root).fileAt other = root.fileAt other
  | [], [], _, h, _ => by
    cases h
    rfl
  | [], n :: names, _, h, hne => by
    cases h
    unfold fileAt
    rw [put, find?_directory_cons, find?_directory_cons]
    by_cases hn : n = name
    · -- below the place of a leaf there is nothing before and nothing afterwards
      subst hn
      cases names with
      | nil => exact absurd rfl hne
      | cons m names =>
        rw [Fields.get?_insert_self, Option.bind_some, hnew]
        cases hentry : Fields.get? n entries with
        | none => rfl
        | some e => rw [Option.bind_some, hold e hentry]
    · rw [Fields.get?_insert_of_ne hn]
  | step :: steps, [], _, h, _ => by
    obtain ⟨outer, entry, rfl, hentry, -⟩ := exists_entry_of_find?_cons h
    rw [put_cons hentry]
    rfl
  | step :: steps, n :: names, _, h, hne => by
    obtain ⟨outer, entry, rfl, hentry, hbelow⟩ := exists_entry_of_find?_cons h
    rw [put_cons hentry]
    unfold fileAt
    rw [find?_directory_cons, find?_directory_cons]
    by_cases hn : n = step
    · subst hn
      have hnames : names ≠ steps ++ [name] := fun heq => hne (congrArg (n :: ·) heq)
      rw [Fields.get?_insert_self, hentry]
      exact fileAt_put_of_ne hnew hold hbelow hnames
    · rw [Fields.get?_insert_of_ne hn]

/-- What was in the tree is still there and is of its kind. -/
theorem exists_find?_put (hold : ∀ e, Fields.get? name entries = some e → e.isDirectory = new.isDirectory)
    (hleaf : ∀ e, Fields.get? name entries = some e → e.IsLeaf) {e : Entry} :
    ∀ {place other : List String} {root : Entry}, root.find? place = some (.directory entries) →
      root.find? other = some e →
      ∃ e', (put name new place root).find? other = some e' ∧ e'.isDirectory = e.isDirectory
  | [], [], _, h, he => by
    cases h
    cases he
    exact ⟨_, rfl, rfl⟩
  | [], n :: names, _, h, he => by
    cases h
    rw [find?_directory_cons, Option.bind_eq_some_iff] at he
    obtain ⟨entry, hentry, he⟩ := he
    rw [put, find?_directory_cons]
    by_cases hn : n = name
    · subst hn
      cases names with
      | nil =>
        cases he
        rw [Fields.get?_insert_self]
        exact ⟨new, rfl, (hold _ hentry).symm⟩
      | cons m names => exact absurd he (by rw [hleaf _ hentry]; nofun)
    · rw [Fields.get?_insert_of_ne hn, hentry]
      exact ⟨e, he, rfl⟩
  | step :: steps, [], _, h, he => by
    obtain ⟨outer, entry, rfl, hentry, -⟩ := exists_entry_of_find?_cons h
    cases he
    rw [put_cons hentry]
    exact ⟨_, rfl, rfl⟩
  | step :: steps, n :: names, _, h, he => by
    obtain ⟨outer, entry, rfl, hentry, hbelow⟩ := exists_entry_of_find?_cons h
    rw [put_cons hentry, find?_directory_cons]
    rw [find?_directory_cons] at he
    by_cases hn : n = step
    · subst hn
      rw [hentry] at he
      rw [Fields.get?_insert_self]
      exact exists_find?_put hold hleaf hbelow he
    · rw [Fields.get?_insert_of_ne hn]
      exact ⟨e, he, rfl⟩

end PageTemplate.Entry
