/-
The files of a tree. In a tree that a disk can hold, the names in a directory are distinct and are such that each
is one piece of a path. Then listing the tree gives every file just once, by the names that lead to it.
-/
import Mathlib.Data.List.Nodup
import PageTemplate.Proofs.Files.Path
import PageTemplate.Proofs.Files.Tree

namespace PageTemplate

/-- A name that an entry of a directory can have. -/
structure IsEntryName (name : String) : Prop where
  isName : Path.IsName name
  no_slash : '/' ∉ name.toList
  no_zero : '\x00' ∉ name.toList
  size_le : name.utf8ByteSize ≤ FileSystem.maxName

instance (name : String) : Decidable (IsEntryName name) :=
  decidable_of_iff (Path.IsName name ∧ '/' ∉ name.toList ∧ '\x00' ∉ name.toList ∧
    name.utf8ByteSize ≤ FileSystem.maxName) ⟨fun h => ⟨h.1, h.2.1, h.2.2.1, h.2.2.2⟩, fun h => ⟨h.1, h.2, h.3, h.4⟩⟩

namespace Entry

/-- A tree that a disk can hold. -/
inductive WellFormed : Entry → Prop
  | file (content : ByteArray) : WellFormed (.file content)
  | directory {entries : List (String × Entry)} : (Fields.names entries).Nodup →
      (∀ entry ∈ entries, IsEntryName entry.1) → (∀ entry ∈ entries, WellFormed entry.2) →
      WellFormed (.directory entries)

variable {root entry : Entry} {entries : List (String × Entry)} {names : List String} {content : ByteArray}

theorem WellFormed.names_nodup (h : WellFormed (.directory entries)) : (Fields.names entries).Nodup := by
  cases h with
  | directory hnodup => exact hnodup

theorem WellFormed.inner (h : WellFormed (.directory entries)) :
    ∀ entry ∈ entries, IsEntryName entry.1 ∧ entry.2.WellFormed := by
  cases h with
  | directory _ hnames hentries => exact fun entry hentry => ⟨hnames entry hentry, hentries entry hentry⟩

/-- The names on the way to an entry are those of entries. -/
theorem WellFormed.isEntryName : ∀ {names : List String} {root : Entry}, root.WellFormed →
    root.find? names = some entry → ∀ name ∈ names, IsEntryName name
  | [], _, _, _ => List.forall_mem_nil _
  | name :: rest, _, h, hfind => by
    obtain ⟨outer, next, rfl, hget, hfind⟩ := exists_entry_of_find?_cons hfind
    obtain ⟨hname, hnext⟩ := h.inner _ (Fields.mem_of_get? hget)
    exact List.forall_mem_cons.2 ⟨hname, hnext.isEntryName hfind⟩

/-! ## Files in a directory -/

/-- A file in a directory or below it is a file of one of the entries. -/
theorem mem_filesIn_iff : ∀ {entries : List (String × Entry)},
    (names, content) ∈ filesIn entries ↔
      ∃ name rest entry, names = name :: rest ∧ (name, entry) ∈ entries ∧ (rest, content) ∈ entry.files
  | [] => by simp [filesIn]
  | (n, e) :: more => by
    rw [filesIn, List.mem_append, mem_filesIn_iff, List.mem_map]
    constructor
    · rintro (⟨⟨rest, c⟩, hfile, heq⟩ | ⟨name, rest, entry, hnames, hentry, hfile⟩)
      · cases heq
        exact ⟨n, rest, e, rfl, List.mem_cons_self, hfile⟩
      · exact ⟨name, rest, entry, hnames, List.mem_cons_of_mem _ hentry, hfile⟩
    · rintro ⟨name, rest, entry, rfl, hentry, hfile⟩
      rcases List.mem_cons.1 hentry with heq | hentry
      · cases heq
        exact .inl ⟨(rest, content), hfile, rfl⟩
      · exact .inr ⟨name, rest, entry, rfl, hentry, hfile⟩

/-- The files of a tree are those that are found in it by the names that lead to them. -/
theorem mem_files_iff : ∀ {names : List String} {root : Entry}, root.WellFormed →
    ((names, content) ∈ root.files ↔ root.find? names = some (.file content))
  | [], .file c, _ => by simp [files, find?, eq_comm]
  | [], .directory entries, _ => by simp [files, mem_filesIn_iff, find?]
  | _ :: _, .file c, _ => by simp [files, find?]
  | name :: rest, .directory entries, h => by
    rw [files, mem_filesIn_iff, find?_directory_cons, Option.bind_eq_some_iff]
    constructor
    · rintro ⟨_, _, entry, heq, hentry, hfile⟩
      cases heq
      exact ⟨entry, Fields.get?_of_mem h.names_nodup hentry, (mem_files_iff (h.inner _ hentry).2).1 hfile⟩
    · rintro ⟨entry, hget, hfind⟩
      have hentry := Fields.mem_of_get? hget
      exact ⟨name, rest, entry, rfl, hentry, (mem_files_iff (h.inner _ hentry).2).2 hfind⟩

mutual

/-- No two files are listed by the same names. -/
theorem nodup_files : ∀ {root : Entry}, root.WellFormed → (root.files.map Prod.fst).Nodup
  | .file content, _ => by simp [files]
  | .directory entries, h => by
    rw [files]
    exact nodup_filesIn h.names_nodup fun entry hentry => (h.inner entry hentry).2

theorem nodup_filesIn : ∀ {entries : List (String × Entry)}, (Fields.names entries).Nodup →
    (∀ entry ∈ entries, WellFormed entry.2) → ((filesIn entries).map Prod.fst).Nodup
  | [], _, _ => by simp [filesIn]
  | (name, entry) :: rest, hnodup, h => by
    obtain ⟨hentry, hrest⟩ := List.forall_mem_cons.1 h
    obtain ⟨hname, hnodup⟩ := List.nodup_cons.1 hnodup
    have hfirst : ((entry.files.map fun (names, content) => (name :: names, content)).map Prod.fst) =
        (entry.files.map Prod.fst).map (name :: ·) := by
      simp [List.map_map, Function.comp_def]
    rw [filesIn, List.map_append, hfirst]
    refine List.nodup_append.2 ⟨(nodup_files hentry).map (List.cons_injective), nodup_filesIn hnodup hrest, ?_⟩
    -- files of different entries differ in the first name
    rintro _ hleft _ hright rfl
    obtain ⟨below, -, rfl⟩ := List.mem_map.1 hleft
    obtain ⟨⟨_, content⟩, hfile, heq⟩ := List.mem_map.1 hright
    obtain ⟨name', below', entry', hnames, hmem, -⟩ := mem_filesIn_iff.1 hfile
    cases hnames.symm.trans heq
    exact hname (Fields.mem_names_of_mem hmem)

end

end Entry

end PageTemplate
