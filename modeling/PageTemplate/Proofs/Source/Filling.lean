/-
Libraries that are filled from a directory. The name of a template is made of the names that lead to its file,
and the path that a directory of templates opens for a name is made of the pieces of that name; so both go from
a name to a file and back the same way, and a library loads just what the directory loads. What carries this is
that the path of a file is the same whether it is put together name by name or from the joined name.
-/
import PageTemplate.Proofs.Files.Listing
import PageTemplate.Proofs.Source.Directory
import PageTemplate.Source.Library

namespace PageTemplate.Library

/-- The files that are listed below a root, less those whose path is longer than a path can be: these cannot be
opened. -/
def openable (root : String) (files : List (List String × ByteArray)) : List (List String × ByteArray) :=
  files.filter fun (names, _) => (Path.down root names).utf8ByteSize ≤ FileSystem.maxPath

/-- The template of a file has its text, and the names that lead to it with slashes between them as its name. -/
structure IsTemplateOf (file : List String × ByteArray) (template : String × String) : Prop where
  name_eq : template.1 = "/".intercalate file.1
  text_eq : template.2.toUTF8 = file.2

variable {fs : FileSystem} {root name text : String} {entries : List (String × Entry)} {names : List String}
  {content : ByteArray} {file : List String × ByteArray} {files : List (List String × ByteArray)}
  {library : Library}

theorem openable_cons_of_le (h : (Path.down root file.1).utf8ByteSize ≤ FileSystem.maxPath)
    (files : List (List String × ByteArray)) : openable root (file :: files) = file :: openable root files :=
  List.filter_cons_of_pos (by simpa using h)

theorem openable_cons_of_lt (h : FileSystem.maxPath < (Path.down root file.1).utf8ByteSize)
    (files : List (List String × ByteArray)) : openable root (file :: files) = openable root files :=
  List.filter_cons_of_neg (by simpa using h)

/-! ## Names of templates -/

/-- The names that lead to a listed file. -/
theorem listed_names (hwf : (Entry.directory entries).WellFormed) (h : (names, content) ∈ Entry.filesIn entries) :
    names ≠ [] ∧ ∀ name ∈ names, IsEntryName name := by
  obtain ⟨first, rest, entry, rfl, -, -⟩ := Entry.mem_filesIn_iff.1 h
  exact ⟨List.cons_ne_nil first rest, hwf.isEntryName ((Entry.mem_files_iff hwf).1 h)⟩

/-- The pieces of a template's name are the names that lead to its file. -/
theorem pieces_of_listed (hwf : (Entry.directory entries).WellFormed)
    (h : (names, content) ∈ Entry.filesIn entries) : Path.pieces ("/".intercalate names) = names := by
  obtain ⟨hne, hnames⟩ := listed_names hwf h
  exact Path.pieces_intercalate hne fun name hname => (hnames name hname).no_slash

/-- The path of a listed file is the one that its template's name gives. -/
theorem down_of_listed (hwf : (Entry.directory entries).WellFormed)
    (h : (names, content) ∈ Entry.filesIn entries) :
    Path.down root names = Path.below root ("/".intercalate names) := by
  obtain ⟨hne, hnames⟩ := listed_names hwf h
  exact Path.down_eq_below hne fun name hname => ⟨(hnames name hname).isName.1, (hnames name hname).no_slash⟩

theorem zero_not_mem_of_listed (hwf : (Entry.directory entries).WellFormed)
    (h : (names, content) ∈ Entry.filesIn entries) : '\x00' ∉ ("/".intercalate names).toList := by
  rw [String.toList_intercalate]
  refine Text.not_mem_intercalate (by decide) fun text htext => ?_
  obtain ⟨name, hname, rfl⟩ := List.mem_map.1 htext
  exact ((listed_names hwf h).2 name hname).no_zero

/-- No two files have templates of the same name. -/
theorem nodup_templateNames (hwf : (Entry.directory entries).WellFormed) :
    ((Entry.filesIn entries).map fun file => "/".intercalate file.1).Nodup := by
  have hfiles : ((Entry.filesIn entries).map Prod.fst).Nodup := Entry.nodup_files hwf
  have hjoined : (((Entry.filesIn entries).map Prod.fst).map ("/".intercalate ·)).Nodup := by
    refine hfiles.map_on fun first hfirst second hsecond heq => ?_
    obtain ⟨⟨_, content⟩, hmem, rfl⟩ := List.mem_map.1 hfirst
    obtain ⟨⟨_, content'⟩, hmem', rfl⟩ := List.mem_map.1 hsecond
    rw [← pieces_of_listed hwf hmem, ← pieces_of_listed hwf hmem']
    exact congrArg Path.pieces heq
  rwa [List.map_map] at hjoined

/-! ## Steps -/

/-- What the path of a listed file leads to, and the name that it gives. -/
structure Listed (fs : FileSystem) (root : String) (file : List String × ByteArray) : Prop where
  opened : (Path.down root file.1).utf8ByteSize ≤ FileSystem.maxPath →
    fs.find (Path.down root file.1) = .ok (.file file.2)
  named : Path.relative? root (Path.down root file.1) = some ("/".intercalate file.1)

theorem listed_of_mem (hroot : fs.find root = .ok (.directory entries))
    (hwf : (Entry.directory entries).WellFormed) (h : file ∈ Entry.filesIn entries) : Listed fs root file := by
  obtain ⟨names, content⟩ := file
  have hnames := (listed_names hwf h).2
  have hpieces := pieces_of_listed hwf h
  have hpath : Path.down root names = Path.below root ("/".intercalate names) := down_of_listed hwf h
  have hopened (hsize : (Path.below root ("/".intercalate names)).utf8ByteSize ≤ FileSystem.maxPath) :
      fs.find (Path.below root ("/".intercalate names)) = .ok (.file content) := by
    have hfind := (Entry.mem_files_iff hwf).1 h
    rw [← hpieces] at hfind
    refine FileSystem.find_below hroot hfind (fun piece hpiece => ?_) (zero_not_mem_of_listed hwf h) hsize
    rw [hpieces] at hpiece
    exact ⟨(hnames piece hpiece).isName, (hnames piece hpiece).size_le⟩
  have hnamed : Path.relative? root (Path.below root ("/".intercalate names)) = some ("/".intercalate names) := by
    refine Path.relative?_below fun piece hpiece => ?_
    rw [hpieces] at hpiece
    exact (hnames piece hpiece).isName
  rw [← hpath] at hopened hnamed
  exact ⟨hopened, hnamed⟩

theorem Listed.isFile (h : Listed fs root file)
    (hsize : (Path.down root file.1).utf8ByteSize ≤ FileSystem.maxPath) :
    fs.isFile (Path.down root file.1) = true := by
  rw [FileSystem.isFile, h.opened hsize]

/-- A file whose path is too long is left out. -/
theorem addFiles_cons_too_long (h : FileSystem.maxPath < (Path.down root file.1).utf8ByteSize)
    (rest : List (List String)) :
    addFiles fs root library (file.1 :: rest) = addFiles fs root library rest := by
  simp only [addFiles, FileSystem.isFile_of_too_long h, Bool.false_eq_true, if_false]

/-- A file with text adds its template. -/
theorem addFiles_cons_text (h : Listed fs root file)
    (hsize : (Path.down root file.1).utf8ByteSize ≤ FileSystem.maxPath)
    (htext : String.fromUTF8? file.2 = some text) (rest : List (List String)) :
    addFiles fs root library (file.1 :: rest) =
      addFiles fs root (Fields.insert ("/".intercalate file.1) text library) rest := by
  have hread := FileSystem.readText_of_find (h.opened hsize) htext
  simp only [addFiles, h.isFile hsize, if_true, hread, h.named]

/-- A file without text ends the filling. -/
theorem addFiles_cons_unreadable (h : Listed fs root file)
    (hsize : (Path.down root file.1).utf8ByteSize ≤ FileSystem.maxPath)
    (htext : String.fromUTF8? file.2 = none) (rest : List (List String)) :
    addFiles fs root library (file.1 :: rest) = .error (.unreadable (Path.down root file.1)) := by
  have hread : fs.readText (Path.down root file.1) = .error .invalidText := by
    rw [FileSystem.readText, h.opened hsize, ok_bind]
    simp only [htext]
  simp only [addFiles, h.isFile hsize, if_true, hread]

/-! ## Runs -/

/-- Files with texts and with names of their own are added one behind the other. -/
theorem addFiles_eq_ok : ∀ {files : List (List String × ByteArray)} {library : Library},
    (∀ file ∈ files, Listed fs root file) → (∀ file ∈ openable root files, file.2.IsValidUTF8) →
    (files.map fun file => "/".intercalate file.1).Nodup →
    (∀ file ∈ files, "/".intercalate file.1 ∉ Fields.names library) →
    ∃ added, addFiles fs root library (files.map Prod.fst) = .ok (library ++ added) ∧
      List.Forall₂ IsTemplateOf (openable root files) added
  | [], library, _, _, _, _ => ⟨[], by rw [List.append_nil]; rfl, .nil⟩
  | file :: rest, library, hlisted, hvalid, hnodup, hnew => by
    obtain ⟨hfile, hrest⟩ := List.forall_mem_cons.1 hlisted
    obtain ⟨hname, hnodup⟩ := List.nodup_cons.1 hnodup
    obtain ⟨hfileNew, hrestNew⟩ := List.forall_mem_cons.1 hnew
    rw [List.map_cons]
    rcases Nat.lt_or_ge FileSystem.maxPath (Path.down root file.1).utf8ByteSize with hsize | hsize
    · rw [openable_cons_of_lt hsize] at hvalid ⊢
      rw [addFiles_cons_too_long hsize]
      exact addFiles_eq_ok hrest hvalid hnodup hrestNew
    · rw [openable_cons_of_le hsize] at hvalid ⊢
      obtain ⟨hfileValid, hrestValid⟩ := List.forall_mem_cons.1 hvalid
      obtain ⟨text, htext⟩ := FileSystem.exists_text_of_isValidUTF8 hfileValid
      have hstored := Fields.insert_of_not_mem text hfileNew
      have hlater : ∀ file' ∈ rest,
          "/".intercalate file'.1 ∉ Fields.names (library ++ [("/".intercalate file.1, text)]) := by
        intro file' hmem
        have hne : "/".intercalate file'.1 ≠ "/".intercalate file.1 := fun heq =>
          hname (List.mem_map.2 ⟨file', hmem, heq⟩)
        rw [← hstored, Fields.mem_names_insert, not_or]
        exact ⟨hne, hrestNew file' hmem⟩
      obtain ⟨added, hadded, htemplates⟩ := addFiles_eq_ok hrest hrestValid hnodup hlater
      refine ⟨("/".intercalate file.1, text) :: added, ?_,
        .cons ⟨rfl, FileSystem.toUTF8_of_fromUTF8? htext⟩ htemplates⟩
      rw [addFiles_cons_text hfile hsize htext, hstored, hadded, List.append_assoc, List.singleton_append]

/-- One file without text is enough for no library. -/
theorem addFiles_eq_error : ∀ {files : List (List String × ByteArray)} {library : Library},
    (∀ file ∈ files, Listed fs root file) → (∃ file ∈ openable root files, ¬ file.2.IsValidUTF8) →
    ∃ file ∈ openable root files, ¬ file.2.IsValidUTF8 ∧
      addFiles fs root library (files.map Prod.fst) = .error (.unreadable (Path.down root file.1))
  | [], _, _, ⟨_, hmem, _⟩ => by cases hmem
  | file :: rest, library, hlisted, hinvalid => by
    obtain ⟨hfile, hrest⟩ := List.forall_mem_cons.1 hlisted
    rw [List.map_cons]
    rcases Nat.lt_or_ge FileSystem.maxPath (Path.down root file.1).utf8ByteSize with hsize | hsize
    · rw [openable_cons_of_lt hsize] at hinvalid ⊢
      rw [addFiles_cons_too_long hsize]
      exact addFiles_eq_error hrest hinvalid
    · rw [openable_cons_of_le hsize] at hinvalid ⊢
      by_cases hvalid : file.2.IsValidUTF8
      · obtain ⟨text, htext⟩ := FileSystem.exists_text_of_isValidUTF8 hvalid
        have hlater : ∃ file' ∈ openable root rest, ¬ file'.2.IsValidUTF8 := by
          obtain ⟨file', hmem, hinvalid⟩ := hinvalid
          rcases List.mem_cons.1 hmem with rfl | hmem
          · exact absurd hvalid hinvalid
          · exact ⟨file', hmem, hinvalid⟩
        obtain ⟨bad, hbad, hbadInvalid, herror⟩ := addFiles_eq_error hrest hlater
        refine ⟨bad, List.mem_cons_of_mem _ hbad, hbadInvalid, ?_⟩
        rw [addFiles_cons_text hfile hsize htext]
        exact herror
      · exact ⟨file, List.mem_cons_self, hvalid,
          addFiles_cons_unreadable hfile hsize (FileSystem.fromUTF8?_of_not_isValidUTF8 hvalid) _⟩

/-! ## The library and the directory -/

theorem names_of_templates (h : List.Forall₂ IsTemplateOf files library) :
    Fields.names library = files.map fun file => "/".intercalate file.1 := by
  have hpairs : List.Forall₂ (· = ·) (files.map fun file => "/".intercalate file.1) (library.map Prod.fst) := by
    rw [List.forall₂_map_left_iff, List.forall₂_map_right_iff]
    exact h.imp fun file template h => h.name_eq.symm
  rw [List.forall₂_eq_eq_eq] at hpairs
  exact hpairs.symm

/-- A library of templates has a text for a name if this is the name of a file with the text. -/
theorem source_of_templates (h : List.Forall₂ IsTemplateOf files library) (hnodup : (Fields.names library).Nodup) :
    library.source name = .ok text ↔
      ∃ file ∈ files, "/".intercalate file.1 = name ∧ String.fromUTF8? file.2 = some text := by
  have hget : library.source name = .ok text ↔ Fields.get? name library = some text := by
    rw [source]
    cases Fields.get? name library <;> simp
  rw [hget]
  constructor
  · intro hget
    obtain ⟨file, hfile, htemplate⟩ := exists_right_of_forall₂ h.flip (Fields.mem_of_get? hget)
    refine ⟨file, hfile, htemplate.name_eq.symm, ?_⟩
    rw [← htemplate.text_eq, FileSystem.fromUTF8?_toUTF8]
  · rintro ⟨file, hfile, rfl, htext⟩
    obtain ⟨⟨name, text'⟩, hmem, htemplate⟩ := exists_right_of_forall₂ h hfile
    rw [← htemplate.text_eq, FileSystem.fromUTF8?_toUTF8] at htext
    cases htext
    rw [← htemplate.name_eq]
    exact Fields.get?_of_mem hnodup hmem

/-- A directory of templates has a text for a name if it has the file that the pieces of the name lead to. -/
theorem directory_eq_ok (hroot : fs.find root = .ok (.directory entries))
    (hwf : (Entry.directory entries).WellFormed) (hname : ∀ piece ∈ Path.pieces name, Path.IsName piece) :
    Source.directory fs.view root name = .ok text ↔
      ∃ file ∈ openable root (Entry.filesIn entries), file.1 = Path.pieces name ∧
        String.fromUTF8? file.2 = some text := by
  have hpath {content : ByteArray} (hmem : (Path.pieces name, content) ∈ Entry.filesIn entries) :
      Path.down root (Path.pieces name) = Path.below root name := by
    rw [down_of_listed hwf hmem, Path.intercalate_pieces]
  rw [(Source.reads_of_inside (Source.inside_of_names hname)).text]
  constructor
  · intro hread
    obtain ⟨content, hfind, htext⟩ := FileSystem.readText_eq_ok.1 hread
    have hmem : (Path.pieces name, content) ∈ Entry.filesIn entries :=
      (Entry.mem_files_iff hwf).2 (FileSystem.find?_of_find_below hroot hname hfind)
    obtain ⟨place, hplace, -⟩ := FileSystem.find_eq_ok.1 hfind
    obtain ⟨-, -, hsize, -⟩ := FileSystem.placeOf_eq_ok.1 hplace
    rw [← hpath hmem] at hsize
    exact ⟨(Path.pieces name, content), List.mem_filter.2 ⟨hmem, by simpa using hsize⟩, rfl, htext⟩
  · rintro ⟨⟨_, content⟩, hfile, rfl, htext⟩
    obtain ⟨hmem, hsize⟩ := List.mem_filter.1 hfile
    have hfind := (listed_of_mem hroot hwf hmem).opened (by simpa using hsize)
    dsimp only at hfind
    rw [hpath hmem] at hfind
    exact FileSystem.readText_eq_ok.2 ⟨content, hfind, htext⟩

/-- A library that is filled from a directory agrees with the directory. For every tree of files below a root
that is there, it has one template for each file, none under the same name as another, and loads a text for a
name whose pieces are names just if the directory loads this text; it has no other templates. If one of the files
is no text, there is no library. Files whose path is longer than a path can be are in neither of the two. -/
theorem ofDirectory_agrees_with_directory (hroot : fs.find root = .ok (.directory entries))
    (hwf : (Entry.directory entries).WellFormed) :
    ((∀ file ∈ openable root (Entry.filesIn entries), file.2.IsValidUTF8) →
      ∃ library, ofDirectory fs root = .ok library ∧
        List.Forall₂ IsTemplateOf (openable root (Entry.filesIn entries)) library ∧
        (Fields.names library).Nodup ∧
        (∀ name, (∀ piece ∈ Path.pieces name, Path.IsName piece) → ∀ text,
          library.source name = .ok text ↔ Source.directory fs.view root name = .ok text) ∧
        ∀ name, (¬ ∀ piece ∈ Path.pieces name, Path.IsName piece) →
          library.source name = .error (.templateNotFound name)) ∧
    ((∃ file ∈ openable root (Entry.filesIn entries), ¬ file.2.IsValidUTF8) →
      ∃ file ∈ openable root (Entry.filesIn entries), ¬ file.2.IsValidUTF8 ∧
        ofDirectory fs root = .error (.unreadable (Path.down root file.1))) := by
  have hlisted : ∀ file ∈ Entry.filesIn entries, Listed fs root file := fun file => listed_of_mem hroot hwf
  have hfilled : ofDirectory fs root = addFiles fs root [] ((Entry.filesIn entries).map Prod.fst) := by
    rw [ofDirectory, hroot]
    rfl
  rw [hfilled]
  refine ⟨fun hvalid => ?_, addFiles_eq_error hlisted⟩
  have hnew : ∀ file ∈ Entry.filesIn entries, "/".intercalate file.1 ∉ Fields.names ([] : Library) :=
    fun _ _ => List.not_mem_nil
  obtain ⟨library, hlibrary, htemplates⟩ := addFiles_eq_ok hlisted hvalid (nodup_templateNames hwf) hnew
  rw [List.nil_append] at hlibrary
  have hnames := names_of_templates htemplates
  have hnodup : (Fields.names library).Nodup := by
    rw [hnames]
    exact (nodup_templateNames hwf).sublist (List.filter_sublist.map _)
  refine ⟨library, hlibrary, htemplates, hnodup, fun name hname text => ?_, fun name hname => ?_⟩
  · rw [source_of_templates htemplates hnodup, directory_eq_ok hroot hwf hname]
    refine exists_congr fun file => and_congr_right fun hfile => and_congr_left fun _ => ?_
    have hpieces : Path.pieces ("/".intercalate file.1) = file.1 :=
      pieces_of_listed hwf (List.mem_filter.1 hfile).1
    constructor
    · rintro rfl
      exact hpieces.symm
    · intro heq
      rw [heq, Path.intercalate_pieces]
  · have hnone : Fields.get? name library = none := by
      rw [Fields.get?_eq_none_iff, hnames, List.mem_map]
      rintro ⟨⟨names, content⟩, hfile, rfl⟩
      have hmem := (List.mem_filter.1 hfile).1
      refine hname fun piece hpiece => ?_
      rw [pieces_of_listed hwf hmem] at hpiece
      exact ((listed_names hwf hmem).2 piece hpiece).isName
    rw [source, hnone]

/-- A root that is written in a roundabout way, with files at two depths and an empty directory. -/
theorem ofDirectory_agrees_with_directory_of_nested_files :
    let entries : List (String × Entry) := [("top.html", .file "top".toUTF8),
      ("a", .directory [("b", .directory [("deep.html", .file "deep".toUTF8)]), ("empty", .directory [])])]
    let fs : FileSystem := ⟨.directory [("site", .directory entries)], []⟩
    fs.find "./site/" = .ok (.directory entries) ∧ (Entry.directory entries).WellFormed ∧
      (∀ file ∈ openable "./site/" (Entry.filesIn entries), file.2.IsValidUTF8) ∧
      ∃ library, ofDirectory fs "./site/" = .ok library ∧ library.length = 2 ∧
        library.source "a/b/deep.html" = .ok "deep" ∧
        library.source "a//b" = .error (.templateNotFound "a//b") := by
  intro entries fs
  have hroot : fs.find "./site/" = .ok (.directory entries) :=
    FileSystem.find_eq_ok.2 ⟨["site"], by decide +kernel, rfl⟩
  have hinner : ∀ entry ∈ entries, entry.2.WellFormed := by
    have hdeep : (Entry.directory [("deep.html", .file "deep".toUTF8)]).WellFormed :=
      .directory (by decide) (by decide +kernel) (List.forall_mem_singleton.2 (.file _))
    have hempty : (Entry.directory []).WellFormed := .directory (by decide) (by decide) (List.forall_mem_nil _)
    exact List.forall_mem_cons.2 ⟨.file _, List.forall_mem_singleton.2
      (.directory (by decide) (by decide +kernel) (List.forall_mem_cons.2 ⟨hdeep, List.forall_mem_singleton.2 hempty⟩))⟩
  have hwf : (Entry.directory entries).WellFormed := .directory (by decide) (by decide +kernel) hinner
  have hvalid : ∀ file ∈ openable "./site/" (Entry.filesIn entries), file.2.IsValidUTF8 := by
    have hfiles : Entry.filesIn entries =
        [(["top.html"], "top".toUTF8), (["a", "b", "deep.html"], "deep".toUTF8)] := by
      simp [entries, Entry.filesIn, Entry.files]
    intro file hfile
    rw [hfiles] at hfile
    rcases List.mem_cons.1 (List.mem_filter.1 hfile).1 with rfl | hfile
    · exact "top".isValidUTF8
    · rw [List.mem_singleton.1 hfile]
      exact "deep".isValidUTF8
  obtain ⟨library, hlibrary, htemplates, -, hagree, hother⟩ :=
    (ofDirectory_agrees_with_directory hroot hwf).1 hvalid
  have hname : ∀ piece ∈ Path.pieces "a/b/deep.html", Path.IsName piece := by decide +kernel
  have hread : fs.readText (Path.below "./site/" "a/b/deep.html") = .ok "deep" := by decide +kernel
  have hload := ((Source.reads_of_inside (Source.inside_of_names hname)).text fs.view "deep").2 hread
  have hcount : (openable "./site/" (Entry.filesIn entries)).length = 2 := by decide +kernel
  refine ⟨hroot, hwf, hvalid, library, hlibrary, ?_, ?_, ?_⟩
  · rw [← htemplates.length_eq, hcount]
  · exact (hagree _ hname _).2 hload
  · exact hother _ (by decide +kernel)
end PageTemplate.Library
