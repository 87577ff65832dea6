/-
What is found below a directory. A path whose name does not go up leads to a place below that of its directory,
whatever is there. And if the name is made of names only, it leads to what is found in the directory by going
down these names, as long as the whole path is not too long.
-/
import PageTemplate.Proofs.Files.Writing

namespace PageTemplate

namespace FileSystem

variable {fs : FileSystem} {root path name : String} {place base target names pieces : List String}
  {entries : List (String × Entry)} {entry : Entry} {content : ByteArray} {text : String}

/-- The place that the pieces of a path lead on from. -/
def origin (fs : FileSystem) (path : String) : List String := if Path.isAbsolute path then [] else fs.working

theorem start_eq_ok : fs.start path = .ok place ↔
    '\x00' ∉ path.toList ∧ path ≠ "" ∧ path.utf8ByteSize ≤ maxPath ∧ fs.origin path = place := by
  have horigin : fs.origin path = if Path.isAbsolute path then [] else fs.working := rfl
  simp only [start, List.contains_iff_mem, ← horigin]
  split_ifs with hzero hempty hsize
  · simp [hzero]
  · simp [hempty]
  · simp [Nat.not_le.2 hsize]
  · simp [hzero, hempty, Nat.not_lt.1 hsize]

theorem placeOf_eq_ok : fs.placeOf path = .ok place ↔
    '\x00' ∉ path.toList ∧ path ≠ "" ∧ path.utf8ByteSize ≤ maxPath ∧
      fs.walk (fs.origin path) (Path.pieces path) = .ok place := by
  rw [placeOf, bind_eq_ok]
  constructor
  · rintro ⟨origin, hstart, hwalk⟩
    obtain ⟨hzero, hempty, hsize, rfl⟩ := start_eq_ok.1 hstart
    exact ⟨hzero, hempty, hsize, hwalk⟩
  · rintro ⟨hzero, hempty, hsize, hwalk⟩
    exact ⟨_, start_eq_ok.2 ⟨hzero, hempty, hsize, rfl⟩, hwalk⟩

theorem find_eq_ok : fs.find path = .ok entry ↔
    ∃ place, fs.placeOf path = .ok place ∧ fs.root.find? place = some entry := by
  constructor
  · intro h
    obtain ⟨origin, hstart, h⟩ := bind_eq_ok.1 h
    obtain ⟨place, hwalk, h⟩ := bind_eq_ok.1 h
    refine ⟨place, bind_eq_ok.2 ⟨origin, hstart, hwalk⟩, ?_⟩
    split at h
    · rename_i e hentry
      cases h
      exact hentry
    · cases h
  · rintro ⟨place, hplace, hentry⟩
    exact find_of_placeOf hplace hentry

/-- A path that is too long leads to no file. -/
theorem isFile_of_too_long (h : maxPath < path.utf8ByteSize) : fs.isFile path = false := by
  unfold isFile
  split
  · rename_i hfind
    obtain ⟨place, hplace, -⟩ := find_eq_ok.1 hfind
    obtain ⟨-, -, hsize, -⟩ := placeOf_eq_ok.1 hplace
    exact absurd hsize (Nat.not_le.2 h)
  · rfl

/-! ## Texts in files -/

theorem toUTF8_of_fromUTF8? (h : String.fromUTF8? content = some text) : text.toUTF8 = content := by
  unfold String.fromUTF8? at h
  split at h
  · cases h
    rfl
  · cases h

theorem exists_text_of_isValidUTF8 (h : content.IsValidUTF8) : ∃ text, String.fromUTF8? content = some text :=
  ⟨_, dif_pos h⟩

theorem fromUTF8?_of_not_isValidUTF8 (h : ¬ content.IsValidUTF8) : String.fromUTF8? content = none := dif_neg h

theorem readText_eq_ok {path : String} : fs.readText path = .ok text ↔
    ∃ content, fs.find path = .ok (.file content) ∧ String.fromUTF8? content = some text := by
  constructor
  · intro h
    obtain ⟨entry, hentry, h⟩ := bind_eq_ok.1 h
    cases entry with
    | directory => cases h
    | file content =>
      dsimp only at h
      split at h
      · rename_i text' htext
        cases h
        exact ⟨content, hentry, htext⟩
      · cases h
  · rintro ⟨content, hfind, htext⟩
    exact readText_of_find hfind htext

/-! ## Ways down -/

/-- A way that goes on needs a directory. -/
theorem exists_entriesAt_of_walk (hne : pieces ≠ []) (h : fs.walk place pieces = .ok target) :
    ∃ entries, fs.entriesAt place = .ok entries := by
  obtain ⟨piece, rest, rfl⟩ := List.exists_cons_of_ne_nil hne
  rw [walk] at h
  split_ifs at h
  · obtain ⟨entries, hentries, -⟩ := bind_eq_ok.1 h
    exact ⟨entries, hentries⟩
  · obtain ⟨entries, hentries, -⟩ := bind_eq_ok.1 h
    exact ⟨entries, hentries⟩
  · obtain ⟨found, hfound, -⟩ := bind_eq_ok.1 h
    obtain ⟨entries, hentries, -⟩ := entry?_eq_ok.1 hfound
    exact ⟨entries, hentries⟩

/-- A way without pieces that go up leads down by those that move. -/
theorem eq_append_of_walk : ∀ {pieces : List String} {place : List String}, ".." ∉ pieces →
    fs.walk place pieces = .ok target → target = place ++ pieces.filter (!Path.isIdle ·)
  | [], place, _, h => by
    cases h
    simp
  | piece :: rest, place, hup, h => by
    obtain ⟨hpiece, hrest⟩ := not_or.1 (mt List.mem_cons.2 hup)
    rw [walk] at h
    split_ifs at h with hidle heq
    · obtain ⟨-, -, h⟩ := bind_eq_ok.1 h
      rw [eq_append_of_walk hrest h, List.filter_cons_of_neg (by simp [hidle])]
    · exact absurd heq.symm hpiece
    · obtain ⟨found, -, h⟩ := bind_eq_ok.1 h
      cases found with
      | none => cases h
      | some e =>
        rw [eq_append_of_walk hrest h, List.filter_cons_of_pos (by simp [hidle]), List.append_assoc,
          List.singleton_append]

/-- Names lead down a directory to what is found there by them. -/
theorem walk_names : ∀ {names : List String} {place : List String} {entries : List (String × Entry)},
    fs.root.find? place = some (.directory entries) → (Entry.directory entries).find? names = some entry →
    (∀ name ∈ names, Path.IsName name ∧ name.utf8ByteSize ≤ maxName) →
    fs.walk place names = .ok (place ++ names)
  | [], place, _, _, _, _ => by rw [walk, List.append_nil]
  | name :: rest, place, entries, hplace, hfind, hnames => by
    obtain ⟨⟨hname, hsize⟩, hrest⟩ := List.forall_mem_cons.1 hnames
    rw [Entry.find?_directory_cons, Option.bind_eq_some_iff] at hfind
    obtain ⟨e, hget, hfind⟩ := hfind
    have hstep : fs.walk place [name] = .ok (place ++ [name]) :=
      walk_name hname.not_idle hname.2.2 (entry?_eq_ok.2 ⟨entries, entriesAt_eq_ok.2 hplace, hsize, hget⟩)
    have hbelow : fs.root.find? (place ++ [name]) = some e := by rw [Entry.find?_append_name hplace, hget]
    rw [← List.singleton_append, walk_append, hstep, ok_bind, ← List.append_assoc]
    cases e with
    | directory inner => exact walk_names hbelow hfind hrest
    | file content =>
      cases rest with
      | nil => rw [walk, List.append_nil]
      | cons => cases hfind

/-! ## Paths below a directory -/

/-- An empty piece at the end makes no difference to a way that ends at a directory. -/
theorem walk_append_empty (h : fs.walk place pieces = .ok base) (hbase : fs.entriesAt base = .ok entries) :
    fs.walk place (pieces ++ [""]) = .ok base := by
  rw [walk_append, h, ok_bind, walk, if_pos (by decide), hbase, ok_bind, walk]

theorem walk_of_append_empty (h : fs.walk place (pieces ++ [""]) = .ok base) :
    fs.walk place pieces = .ok base := by
  rw [walk_append] at h
  obtain ⟨target, hwalk, h⟩ := bind_eq_ok.1 h
  rw [walk, if_pos (by decide)] at h
  obtain ⟨-, -, h⟩ := bind_eq_ok.1 h
  cases h
  exact hwalk

/-- A name that does not go up leads from the place of the directory to one below it. -/
theorem exists_base_of_placeOf (hname : Path.isAbsolute name = false) (hup : ".." ∉ Path.pieces name)
    (h : fs.placeOf (Path.below root name) = .ok place) :
    ∃ base, fs.walk (fs.origin root) (Path.pieces root) = .ok base ∧
      place = base ++ (Path.pieces name).filter (!Path.isIdle ·) := by
  obtain ⟨-, -, -, hwalk⟩ := placeOf_eq_ok.1 h
  obtain ⟨front, hfront, hbelow⟩ := Path.exists_front root
  rw [origin, Path.isAbsolute_below hname, ← origin, hbelow, walk_append] at hwalk
  obtain ⟨base, hbase, hwalk⟩ := bind_eq_ok.1 hwalk
  refine ⟨base, ?_, eq_append_of_walk hup hwalk⟩
  rcases hfront with hroot | hroot
  · rw [hroot]
    exact hbase
  · obtain ⟨entries, hentries⟩ := exists_entriesAt_of_walk (Path.pieces_ne_nil name) hwalk
    rw [hroot]
    exact walk_append_empty hbase hentries

/-- What a path of names leads to is found in its directory by going down these names. -/
theorem find?_of_find_below (hroot : fs.find root = .ok (.directory entries))
    (hname : ∀ piece ∈ Path.pieces name, Path.IsName piece) (h : fs.find (Path.below root name) = .ok entry) :
    (Entry.directory entries).find? (Path.pieces name) = some entry := by
  obtain ⟨base, hbase, hentries⟩ := find_eq_ok.1 hroot
  obtain ⟨-, -, -, hbase⟩ := placeOf_eq_ok.1 hbase
  obtain ⟨place, hplace, hentry⟩ := find_eq_ok.1 h
  have habsolute : Path.isAbsolute name = false :=
    Path.not_isAbsolute_of_pieces fun hmem => (hname "" hmem).1 rfl
  obtain ⟨base', hbase', rfl⟩ :=
    exists_base_of_placeOf habsolute (fun hmem => (hname ".." hmem).2.2 rfl) hplace
  have hmoves : (Path.pieces name).filter (!Path.isIdle ·) = Path.pieces name :=
    List.filter_eq_self.2 fun piece hpiece => by simp [(hname piece hpiece).not_idle]
  rw [hbase] at hbase'
  cases hbase'
  rwa [hmoves, Entry.find?_append, hentries, Option.bind_some] at hentry

/-- What is found in a directory by going down names is what the path of these names leads to. -/
theorem find_below (hroot : fs.find root = .ok (.directory entries))
    (hfind : (Entry.directory entries).find? (Path.pieces name) = some entry)
    (hname : ∀ piece ∈ Path.pieces name, Path.IsName piece ∧ piece.utf8ByteSize ≤ maxName)
    (hzero : '\x00' ∉ name.toList) (hsize : (Path.below root name).utf8ByteSize ≤ maxPath) :
    fs.find (Path.below root name) = .ok entry := by
  obtain ⟨base, hbase, hentries⟩ := find_eq_ok.1 hroot
  obtain ⟨hrootZero, hempty, -, hbase⟩ := placeOf_eq_ok.1 hbase
  have habsolute : Path.isAbsolute name = false :=
    Path.not_isAbsolute_of_pieces fun hmem => (hname "" hmem).1.1 rfl
  have hpath : '\x00' ∉ (Path.below root name).toList ∧ Path.below root name ≠ "" := by
    unfold Path.below
    split <;> simp [hrootZero, hzero, hempty, String.append_eq_empty_iff]
  obtain ⟨front, hfront, hbelow⟩ := Path.exists_front root
  have hbase' : fs.walk (fs.origin root) front = .ok base := by
    rcases hfront with hroot | hroot
    · rwa [← hroot]
    · exact walk_of_append_empty (hroot ▸ hbase)
  have hwalk : fs.walk (fs.origin (Path.below root name)) (Path.pieces (Path.below root name)) =
      .ok (base ++ Path.pieces name) := by
    rw [origin, Path.isAbsolute_below habsolute, ← origin, hbelow, walk_append, hbase', ok_bind]
    exact walk_names hentries hfind hname
  refine find_eq_ok.2 ⟨_, placeOf_eq_ok.2 ⟨hpath.1, hpath.2, hsize, hwalk⟩, ?_⟩
  rw [Entry.find?_append, hentries, Option.bind_some, hfind]

end FileSystem

end PageTemplate
