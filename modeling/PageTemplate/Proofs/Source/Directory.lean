/-
The templates of a directory. Which names read a file is decided by the name alone: it is not empty, does not
start at the root of the file system and has no piece that goes up. The file is the one at the path of the
directory followed by the name, and nothing on this path leads out of the directory again, neither in its text
nor in any file system. Every other name is not found, whatever files there are.
-/
import PageTemplate.Proofs.Files.Descent
import PageTemplate.Source.Basic

namespace PageTemplate.Source

variable {root name : String}

/-- The name cannot lead out of a directory. -/
structure Inside (name : String) : Prop where
  ne_empty : name ≠ ""
  no_slash_first : name.toList.head? ≠ some '/'
  no_up : ".." ∉ Path.pieces name

/-- The answer for the name is the same whatever files there are. -/
def ReadsNothing (root name : String) : Prop :=
  ∀ files files' : FileView, directory files root name = directory files' root name

/-- The answer for the name is what reading the file at a path gives. -/
structure Reads (root name path : String) : Prop where
  text : ∀ (files : FileView) text, directory files root name = .ok text ↔ files.readText path = .ok text
  missing : ∀ files : FileView, files.readText path = .error .notFound →
    directory files root name = .error (.templateNotFound name)
  fault : ∀ (files : FileView) fault, files.readText path = .error fault → fault ≠ .notFound →
    directory files root name = .error (.file path fault)

theorem Inside.not_isAbsolute (h : Inside name) : Path.isAbsolute name = false := decide_eq_false h.no_slash_first

/-- A name that is made of names only stays inside. -/
theorem inside_of_names (h : ∀ piece ∈ Path.pieces name, Path.IsName piece) : Inside name := by
  refine ⟨?_, ?_, fun hmem => (h ".." hmem).2.2 rfl⟩
  · rintro rfl
    exact (h "" List.mem_cons_self).1 rfl
  · have habsolute := Path.not_isAbsolute_of_pieces fun hmem => (h "" hmem).1 rfl
    exact of_decide_eq_false habsolute

/-- What the components of a name say of its text. -/
theorem staysBelow_iff : staysBelow name = true ↔ Inside name := by
  have hcomponents : (Path.components name).any Path.Component.escapes = false ↔
      name.toList.head? ≠ some '/' ∧ ".." ∉ Path.pieces name := by
    rw [← Bool.not_eq_true, Path.escapes_components_iff, not_or, Path.isAbsolute, decide_eq_true_iff]
  rw [staysBelow, Bool.and_eq_true, Bool.not_eq_true', hcomponents, decide_eq_true_iff]
  constructor
  · rintro ⟨hempty, hslash, hup⟩
    exact ⟨hempty, hslash, hup⟩
  · intro h
    exact ⟨h.ne_empty, h.no_slash_first, h.no_up⟩

example : ["...", "..a", "a//b/", "./."].map staysBelow = [true, true, true, true] ∧
    ["", "/a", "a/..", "a/../b"].map staysBelow = [false, false, false, false] := by
  decide +kernel

theorem directory_of_not_inside (h : ¬ Inside name) (files : FileView) :
    directory files root name = .error (.templateNotFound name) := by
  have hpath : path? root name = none := if_neg (mt staysBelow_iff.1 h)
  rw [directory, hpath]

theorem reads_of_inside (h : Inside name) : Reads root name (Path.below root name) := by
  have hpath : path? root name = some (Path.below root name) := if_pos (staysBelow_iff.2 h)
  refine ⟨fun files text => ?_, fun files hread => ?_, fun files fault hread hne => ?_⟩
  · rw [directory, hpath]
    rcases hread : files.readText (Path.below root name) with fault | text'
    · cases fault <;> simp [hread]
    · simp [hread]
  · simp [directory, hpath, hread]
  · cases fault with
    | notFound => exact absurd rfl hne
    | _ => simp [directory, hpath, hread]

theorem Reads.not_readsNothing {path : String} (h : Reads root name path) : ¬ ReadsNothing root name := by
  intro hnothing
  have hempty := (h.text ⟨fun _ => .ok "", fun _ => true⟩ "").2 rfl
  have hother := (h.text ⟨fun _ => .ok "a", fun _ => true⟩ "a").2 rfl
  rw [hnothing _ ⟨fun _ => .ok "a", fun _ => true⟩, hother] at hempty
  exact absurd (Except.ok.inj hempty) (by decide)

/-- A directory of templates never leaves its root. For every root and every text as a name, a file is read just
if the name is not empty, does not begin with a slash and has no piece of two dots. Then it is the file at the
root followed by the name: the components of this path are those of the root and behind them names only, and in
every file system the place that it leads to is below the place of the root. Every other name is not found. -/
theorem directory_stays_below_root (root name : String) :
    (¬ ReadsNothing root name ↔ Inside name) ∧
    (Inside name → Reads root name (Path.below root name) ∧
      (∃ names : List String,
        Path.resolved (Path.below root name) = Path.resolved root ++ names.map Path.Component.name) ∧
      ∀ (fs : FileSystem) place, fs.placeOf (Path.below root name) = .ok place →
        ∃ base, fs.walk (fs.origin root) (Path.pieces root) = .ok base ∧ base <+: place) ∧
    (¬ Inside name → ∀ files, directory files root name = .error (.templateNotFound name)) := by
  have houtside (h : ¬ Inside name) : ReadsNothing root name := fun files files' => by
    rw [directory_of_not_inside h, directory_of_not_inside h]
  refine ⟨⟨fun h => not_not.1 (mt houtside h), fun h => (reads_of_inside h).not_readsNothing⟩,
    fun h => ⟨reads_of_inside h, ?_, fun fs place hplace => ?_⟩, directory_of_not_inside⟩
  · refine ⟨(Path.pieces name).filter (!Path.isIdle ·), ?_⟩
    rw [Path.resolved_below h.not_isAbsolute, Path.filterMap_ofPiece?_of_no_up h.no_up]
  · obtain ⟨base, hbase, rfl⟩ := FileSystem.exists_base_of_placeOf h.not_isAbsolute h.no_up hplace
    exact ⟨base, hbase, List.prefix_append _ _⟩

end PageTemplate.Source
