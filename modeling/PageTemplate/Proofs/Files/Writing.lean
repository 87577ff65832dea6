/-
Making directories and writing files. Whatever an operation answers, nothing that was there is gone, a file
stays a file, a directory stays a directory, and no file is different but the one that was written; so a path
that led somewhere before still leads there. What was written is read back from the same path.
-/
import PageTemplate.Proofs.Files.Path
import PageTemplate.Proofs.Files.Tree
import PageTemplate.Proofs.Line.Replacement
import PageTemplate.Proofs.Outcome
import PageTemplate.Render.Saving

namespace PageTemplate

namespace FileSystem

open Entry (fileAt IsLeaf)

/-- Besides the files at the places of `written`, nothing is different in the second file system but
directories that are new. -/
structure Frame (written : List String → Prop) (before after : FileSystem) : Prop where
  working : after.working = before.working
  entries : ∀ place entry, before.root.find? place = some entry →
    ∃ entry', after.root.find? place = some entry' ∧ entry'.isDirectory = entry.isDirectory
  files : ∀ place, ¬ written place → after.root.fileAt place = before.root.fileAt place

/-- The place that a path leads to. -/
def placeOf (fs : FileSystem) (path : String) : Except FileFault (List String) := do
  fs.walk (← fs.start path) (Path.pieces path)

variable {written written' : List String → Prop} {fs fs' fs'' : FileSystem} {path name : String}
  {place pieces target : List String} {entries : List (String × Entry)} {new : Entry}

theorem entriesAt_eq_ok : fs.entriesAt place = .ok entries ↔ fs.root.find? place = some (.directory entries) := by
  unfold entriesAt
  rcases fs.root.find? place with _ | (_ | entries) <;> simp

theorem entry?_eq_ok {found : Option Entry} :
    fs.entry? place name = .ok found ↔
      ∃ entries, fs.entriesAt place = .ok entries ∧ name.utf8ByteSize ≤ maxName ∧
        Fields.get? name entries = found := by
  unfold entry?
  rw [bind_eq_ok]
  refine exists_congr fun entries => and_congr_right fun _ => ?_
  split_ifs with hsize
  · exact ⟨nofun, fun h => absurd h.1 (Nat.not_le.2 hsize)⟩
  · exact ⟨fun h => ⟨Nat.not_lt.1 hsize, Except.ok.inj h⟩, fun h => congrArg _ h.2⟩

namespace Frame

theorem refl (fs : FileSystem) : fs.Frame written fs := ⟨rfl, fun _ entry h => ⟨entry, h, rfl⟩, fun _ _ => rfl⟩

theorem trans (h : fs.Frame written fs') (h' : fs'.Frame written fs'') : fs.Frame written fs'' := by
  refine ⟨h'.working.trans h.working, fun place entry hentry => ?_, fun place hplace => ?_⟩
  · obtain ⟨entry', hentry', hkind⟩ := h.entries place entry hentry
    obtain ⟨entry'', hentry'', hkind'⟩ := h'.entries place entry' hentry'
    exact ⟨entry'', hentry'', hkind'.trans hkind⟩
  · exact (h'.files place hplace).trans (h.files place hplace)

theorem mono (h : fs.Frame written fs') (hmore : ∀ place, written place → written' place) :
    fs.Frame written' fs' :=
  ⟨h.working, h.entries, fun place hplace => h.files place fun hw => hplace (hmore place hw)⟩

/-! ## Ways -/

theorem start (h : fs.Frame written fs') (path : String) : fs'.start path = fs.start path := by
  unfold FileSystem.start
  rw [h.working]

theorem entriesAt (h : fs.Frame written fs') (hentries : fs.entriesAt place = .ok entries) :
    ∃ entries', fs'.entriesAt place = .ok entries' := by
  obtain ⟨entry', hfind, hkind⟩ := h.entries place _ (entriesAt_eq_ok.1 hentries)
  cases entry' with
  | directory entries' => exact ⟨entries', entriesAt_eq_ok.2 hfind⟩
  | file => cases hkind

theorem entry? (h : fs.Frame written fs') {e : Entry} (hentry : fs.entry? place name = .ok (some e)) :
    ∃ e', fs'.entry? place name = .ok (some e') := by
  obtain ⟨entries, hentries, hsize, he⟩ := entry?_eq_ok.1 hentry
  obtain ⟨entries', hentries'⟩ := h.entriesAt hentries
  have hfind : fs.root.find? (place ++ [name]) = some e := by
    rw [Entry.find?_append_name (entriesAt_eq_ok.1 hentries), he]
  obtain ⟨e', hfind', -⟩ := h.entries _ _ hfind
  rw [Entry.find?_append_name (entriesAt_eq_ok.1 hentries')] at hfind'
  exact ⟨e', entry?_eq_ok.2 ⟨entries', hentries', hsize, hfind'⟩⟩

/-- A way that was there is still there. -/
theorem walk (h : fs.Frame written fs') :
    ∀ {pieces : List String} {place : List String}, fs.walk place pieces = .ok target →
      fs'.walk place pieces = .ok target
  | [], _, hwalk => hwalk
  | piece :: pieces, place, hwalk => by
    -- a piece that does not go down needs the place to be a directory and no more
    have hstay : ∀ next, (fs.entriesAt place >>= fun _ => fs.walk next pieces) = .ok target →
        (fs'.entriesAt place >>= fun _ => fs'.walk next pieces) = .ok target := by
      intro next hnext
      obtain ⟨entries, hentries, hnext⟩ := bind_eq_ok.1 hnext
      obtain ⟨entries', hentries'⟩ := h.entriesAt hentries
      rw [hentries', ok_bind]
      exact h.walk hnext
    rw [FileSystem.walk] at hwalk ⊢
    split_ifs at hwalk ⊢
    · exact hstay place hwalk
    · exact hstay place.dropLast hwalk
    · obtain ⟨found, hfound, hwalk⟩ := bind_eq_ok.1 hwalk
      cases found with
      | none => cases hwalk
      | some e =>
        obtain ⟨e', he'⟩ := h.entry? hfound
        rw [he', ok_bind]
        exact h.walk hwalk

end Frame

/-! ## New entries -/

/-- Putting an entry that has nothing below it in place of another one of its kind, or of none. -/
theorem put_frame (hentries : fs.entriesAt place = .ok entries) (hnew : new.IsLeaf)
    (hold : ∀ e, Fields.get? name entries = some e → e.IsLeaf ∧ e.isDirectory = new.isDirectory) :
    fs.Frame (· = place ++ [name]) (fs.put place name new) := by
  have hplace := entriesAt_eq_ok.1 hentries
  exact ⟨rfl,
    fun _ _ hother => Entry.exists_find?_put (fun e he => (hold e he).2) (fun e he => (hold e he).1)
      hplace hother,
    fun _ hother => Entry.fileAt_put_of_ne hnew (fun e he => (hold e he).1) hplace hother⟩

theorem makeDirectory_eq_ok (h : fs.makeDirectory path = .ok fs') :
    ∃ place name entries, fs.entriesAt place = .ok entries ∧ Fields.get? name entries = none ∧
      fs' = fs.put place name (.directory []) := by
  unfold makeDirectory at h
  obtain ⟨⟨place, _ | name⟩, -, h⟩ := bind_eq_ok.1 h
  · cases h
  obtain ⟨_, -, h⟩ := bind_eq_ok.1 h
  split_ifs at h
  obtain ⟨found, hfound, h⟩ := bind_eq_ok.1 h
  obtain ⟨entries, hentries, -, hget⟩ := entry?_eq_ok.1 hfound
  cases found with
  | some => cases h
  | none =>
    cases h
    exact ⟨place, name, entries, hentries, hget, rfl⟩

/-- Making a directory changes no file. -/
theorem makeDirectory_frame (h : fs.makeDirectory path = .ok fs') : fs.Frame (fun _ => False) fs' := by
  obtain ⟨place, name, entries, hentries, hget, rfl⟩ := makeDirectory_eq_ok h
  have hframe : fs.Frame (· = place ++ [name]) (fs.put place name (.directory [])) :=
    put_frame hentries Entry.isLeaf_empty fun e he => by rw [hget] at he; cases he
  refine ⟨hframe.working, hframe.entries, fun other _ => ?_⟩
  by_cases hother : other = place ++ [name]
  · -- there was nothing before, and a directory is no file
    have hplace := entriesAt_eq_ok.1 hentries
    subst hother
    unfold fileAt
    rw [Entry.find?_append_name hplace, hget, put,
      Entry.find?_append_name (Entry.find?_put hplace), Fields.get?_insert_self]
    rfl
  · exact hframe.files other hother

theorem ensureDirectory_frame (h : fs.ensureDirectory path = .ok fs') : fs.Frame (fun _ => False) fs' := by
  unfold ensureDirectory at h
  split at h
  · rename_i hmade
    cases h
    exact makeDirectory_frame hmade
  · split_ifs at h
    cases h
    exact Frame.refl fs

/-- Making directories changes no file, also if it fails on its way. -/
theorem ensureDirectories_frame : ∀ (levels : Nat) (path : String) (fs : FileSystem),
    fs.Frame (fun _ => False) (ensureDirectories path levels fs).2
  | 0, _, fs => Frame.refl fs
  | levels + 1, path, fs => by
    unfold ensureDirectories
    split
    · exact ensureDirectory_frame ‹_›
    · split
      · exact Frame.refl fs
      · rename_i parent _
        have habove := ensureDirectories_frame levels parent fs
        rcases hparent : ensureDirectories parent levels fs with ⟨fault | ⟨⟩, above⟩ <;> rw [hparent] at habove
        · exact habove
        · dsimp only
          split
          · exact habove.trans (ensureDirectory_frame ‹_›)
          · exact habove
    · exact Frame.refl fs

/-! ## Writing -/

theorem walk_append {more : List String} :
    ∀ {pieces : List String} {place : List String},
      fs.walk place (pieces ++ more) = fs.walk place pieces >>= (fs.walk · more)
  | [], _ => rfl
  | piece :: pieces, place => by
    rw [List.cons_append, walk, walk]
    split_ifs
    · cases fs.entriesAt place with
      | error => rfl
      | ok => exact walk_append
    · cases fs.entriesAt place with
      | error => rfl
      | ok => exact walk_append
    · rcases fs.entry? place piece with fault | _ | e
      · rfl
      · rfl
      · exact walk_append

/-- A name in a directory leads to what is there under it. -/
theorem walk_name {e : Entry} (hidle : Path.isIdle name = false) (hup : name ≠ "..")
    (hentry : fs.entry? place name = .ok (some e)) : fs.walk place [name] = .ok (place ++ [name]) := by
  rw [walk, if_neg (by rw [hidle]; nofun), if_neg hup, hentry]
  rfl

/-- Where a path that is written to leads: to a name in a directory. -/
theorem lastPiece_eq_ok (hslash : path.toList.getLast? ≠ some '/')
    (h : fs.lastPiece path = .ok (place, some name)) :
    ∃ origin before, fs.start path = .ok origin ∧ Path.pieces path = before ++ [name] ∧ name ≠ "" ∧
      fs.walk origin before = .ok place := by
  unfold lastPiece at h
  obtain ⟨origin, hstart, h⟩ := bind_eq_ok.1 h
  have hempty : path ≠ "" := by
    rintro rfl
    cases hstart
  obtain ⟨before, last, hpieces, hlast⟩ := Path.exists_pieces_eq hempty hslash
  rw [hpieces, List.reverse_append, List.reverse_singleton, List.singleton_append,
    List.dropWhile_cons_of_neg (by simpa using hlast)] at h
  obtain ⟨place', hwalk, h⟩ := bind_eq_ok.1 h
  rw [List.reverse_reverse] at hwalk
  cases h
  exact ⟨origin, before, hstart, hpieces, hlast, hwalk⟩

/-- What it takes for a file to be written. -/
theorem write_eq_ok {content : ByteArray} (h : fs.write path content = .ok fs') :
    ∃ place name entries, fs.lastPiece path = .ok (place, some name) ∧ fs.entriesAt place = .ok entries ∧
      name ≠ "." ∧ name ≠ ".." ∧ name.utf8ByteSize ≤ maxName ∧ path.toList.getLast? ≠ some '/' ∧
      (∀ e, Fields.get? name entries = some e → e.isDirectory = false) ∧
      fs' = fs.put place name (.file content) := by
  unfold write at h
  obtain ⟨⟨place, _ | name⟩, hlast, h⟩ := bind_eq_ok.1 h
  · cases h
  obtain ⟨_, -, h⟩ := bind_eq_ok.1 h
  split_ifs at h with hname
  rw [not_or, not_or] at hname
  obtain ⟨found, hfound, h⟩ := bind_eq_ok.1 h
  obtain ⟨entries, hentries, hsize, hget⟩ := entry?_eq_ok.1 hfound
  refine ⟨place, name, entries, hlast, hentries, hname.1, hname.2.1, hsize, hname.2.2, ?_⟩
  rcases found with _ | (content' | below)
  · cases h
    exact ⟨fun e he => (by rw [hget] at he; cases he), rfl⟩
  · cases h
    exact ⟨fun e he => (by rw [hget] at he; cases he; rfl), rfl⟩
  · cases h

/-- Writing changes the file at one place, and the path leads there. -/
theorem write_frame {content : ByteArray} (h : fs.write path content = .ok fs') :
    ∃ place, fs.Frame (· = place) fs' ∧ fs'.placeOf path = .ok place ∧
      fs'.root.find? place = some (.file content) := by
  obtain ⟨place, name, entries, hlast, hentries, hdot, hup, hsize, hslash, hold, rfl⟩ := write_eq_ok h
  obtain ⟨origin, before, hstart, hpieces, hempty, hwalk⟩ := lastPiece_eq_ok hslash hlast
  have hleaf : ∀ e, Fields.get? name entries = some e →
      e.IsLeaf ∧ e.isDirectory = (Entry.file content).isDirectory := fun e he => by
    have hkind := hold e he
    cases e with
    | file old => exact ⟨Entry.isLeaf_file old, rfl⟩
    | directory => cases hkind
  have hframe := put_frame hentries (Entry.isLeaf_file content) hleaf
  have hplace : (Entry.put name (.file content) place fs.root).find? place =
      some (.directory (Fields.insert name (.file content) entries)) :=
    Entry.find?_put (entriesAt_eq_ok.1 hentries)
  have hentry : FileSystem.entry? (fs.put place name (.file content)) place name = .ok (some (.file content)) :=
    entry?_eq_ok.2 ⟨_, entriesAt_eq_ok.2 hplace, hsize, Fields.get?_insert_self _ _ _⟩
  refine ⟨place ++ [name], hframe, ?_, ?_⟩
  · rw [placeOf, hframe.start, hstart, ok_bind, hpieces, walk_append, hframe.walk hwalk, ok_bind]
    exact walk_name (by simp [Path.isIdle, hempty, hdot]) hup hentry
  · show (Entry.put name _ place fs.root).find? _ = _
    rw [Entry.find?_append_name hplace, Fields.get?_insert_self]

theorem find_of_placeOf {e : Entry} (hplace : fs.placeOf path = .ok place)
    (hentry : fs.root.find? place = some e) : fs.find path = .ok e := by
  obtain ⟨origin, hstart, hwalk⟩ := bind_eq_ok.1 hplace
  rw [find, hstart, ok_bind, hwalk, ok_bind, hentry]
  rfl

theorem readText_of_find {content : ByteArray} {text : String} (hfind : fs.find path = .ok (.file content))
    (htext : String.fromUTF8? content = some text) : fs.readText path = .ok text := by
  rw [readText, hfind, ok_bind]
  simp only [htext]
  rfl

theorem fromUTF8?_toUTF8 (text : String) : String.fromUTF8? text.toUTF8 = some text := by
  unfold String.fromUTF8?
  rw [dif_pos (show text.toUTF8.IsValidUTF8 from text.isValidUTF8)]
  rfl

/-! ## Saving -/

/-- The second file system has a page in the file that a path leads to. No other file is different, none
is new, and nothing is gone. -/
structure Saved (before : FileSystem) (path page : String) (after : FileSystem) : Prop where
  page : after.readText path = .ok page
  others : ∃ place, after.placeOf path = .ok place ∧ before.Frame (· = place) after

theorem save_eq_ok {page : String} (h : fs.save path page = (.ok (), fs')) :
    ∃ above, fs.Frame (fun _ => False) above ∧ above.write path page.toUTF8 = .ok fs' := by
  have hmade : fs.Frame (fun _ => False)
      (if (Path.parent? path).getD "" = "" then (.ok (), fs)
        else fs.makeDirectories ((Path.parent? path).getD "")).2 := by
    split
    · exact Frame.refl fs
    · exact ensureDirectories_frame _ _ fs
  unfold save at h
  dsimp only at h
  generalize (if (Path.parent? path).getD "" = "" then _ else _ : Except FileFault Unit × FileSystem) = made
    at h hmade
  obtain ⟨_ | ⟨⟩, above⟩ := made
  · cases h
  · dsimp only at h
    split at h
    · cases h
      exact ⟨above, hmade, ‹_›⟩
    · cases h

/-- A page that has been saved is in its file, whatever directories had to be made for it. -/
theorem save_saved {page : String} (h : fs.save path page = (.ok (), fs')) : fs.Saved path page fs' := by
  obtain ⟨above, habove, hwrite⟩ := save_eq_ok h
  obtain ⟨place, hframe, hplace, hfile⟩ := write_frame hwrite
  exact ⟨readText_of_find (find_of_placeOf hplace hfile) (fromUTF8?_toUTF8 page),
    place, hplace, (habove.mono fun _ hnone => hnone.elim).trans hframe⟩

example : (((⟨.directory [], []⟩ : FileSystem).save "site/a.html" "page").2.readText "site//./a.html").toOption =
    some "page" := by
  decide +kernel

end FileSystem

end PageTemplate
