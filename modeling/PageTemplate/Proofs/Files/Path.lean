/-
Paths below a directory. The pieces of the path of a name in a directory are those of the directory and then
those of the name, whether or not the directory is written with a slash at its end. So such a path goes on from
the components of the directory, and if no piece of the name goes up it goes on downwards only. The names that
lead to a file below a directory are got back from its path.
-/
import Mathlib.Data.List.Basic
import PageTemplate.Files.Path

namespace PageTemplate.Path

variable {root name path piece : String} {names : List String}

/-- The piece is the name of something in a directory: it neither stays nor goes up. -/
def IsName (piece : String) : Prop := piece ≠ "" ∧ piece ≠ "." ∧ piece ≠ ".."

instance (piece : String) : Decidable (IsName piece) := inferInstanceAs (Decidable (_ ∧ _))

/-! ## Pieces -/

theorem isIdle_eq_false_iff : isIdle piece = false ↔ piece ≠ "" ∧ piece ≠ "." := by
  simp [isIdle]

theorem IsName.not_idle (h : IsName piece) : isIdle piece = false := isIdle_eq_false_iff.2 ⟨h.1, h.2.1⟩

theorem pieces_ne_nil (path : String) : pieces path ≠ [] := by
  unfold pieces
  rw [Ne, List.map_eq_nil_iff]
  exact List.splitOn_ne_nil '/' path.toList

theorem intercalate_pieces (path : String) : "/".intercalate (pieces path) = path := by
  apply String.toList_injective
  rw [String.toList_intercalate, pieces, List.map_map]
  have hcancel : String.toList ∘ String.ofList = id := funext fun text => String.toList_ofList
  rw [hcancel, List.map_id]
  exact List.intercalate_splitOn '/'

/-- Names without slashes are the pieces of the path that they make. -/
theorem pieces_intercalate (hne : names ≠ []) (h : ∀ name ∈ names, '/' ∉ name.toList) :
    pieces ("/".intercalate names) = names := by
  have hsplit : ("/".intercalate names).toList.splitOn '/' = names.map String.toList := by
    rw [String.toList_intercalate]
    refine List.splitOn_intercalate '/' ?_ (by simpa using hne)
    intro text htext
    obtain ⟨name, hname, rfl⟩ := List.mem_map.1 htext
    exact h name hname
  rw [pieces, hsplit, List.map_map]
  have hcancel : String.ofList ∘ String.toList = id := funext fun name => String.ofList_toList
  rw [hcancel, List.map_id]

theorem pieces_append_slash (front name : String) : pieces (front ++ "/" ++ name) = pieces front ++ pieces name := by
  have htext : (front ++ "/" ++ name).toList = front.toList ++ '/' :: name.toList := by
    simp [String.toList_append]
  rw [pieces, htext, List.splitOn_append_cons_self, List.map_append]
  rfl

/-- The pieces of a directory stand in front of those of a name in it; an empty piece at the end of the
directory is left out. -/
theorem exists_front (root : String) :
    ∃ front, (pieces root = front ∨ pieces root = front ++ [""]) ∧
      ∀ name, pieces (below root name) = front ++ pieces name := by
  by_cases hempty : root = ""
  · subst hempty
    exact ⟨[], .inr rfl, fun name => by simp [below]⟩
  by_cases hslash : root.toList.getLast? = some '/'
  · obtain ⟨before, hbefore⟩ := List.getLast?_eq_some_iff.1 hslash
    have hroot : root = String.ofList before ++ "/" := by
      apply String.toList_injective
      rw [hbefore, String.toList_append, String.toList_ofList]
      rfl
    refine ⟨pieces (String.ofList before), .inr ?_, fun name => ?_⟩
    · have h := pieces_append_slash (String.ofList before) ""
      rwa [String.append_empty, ← hroot] at h
    · rw [below, if_pos (.inr hslash), hroot, pieces_append_slash]
  · refine ⟨pieces root, .inl rfl, fun name => ?_⟩
    rw [below, if_neg (not_or.2 ⟨hempty, hslash⟩), pieces_append_slash]

/-- A path that does not end with a slash ends with a name. -/
theorem exists_pieces_eq {path : String} (hempty : path ≠ "") (hslash : path.toList.getLast? ≠ some '/') :
    ∃ before name, pieces path = before ++ [name] ∧ name ≠ "" := by
  by_cases hmem : '/' ∈ path.toList
  · -- the name is what stands behind the last slash
    obtain ⟨behind, before, hsplit, hbehind⟩ := List.eq_append_cons_of_mem (List.mem_reverse.2 hmem)
    have hpath : path.toList = before.reverse ++ '/' :: behind.reverse := by
      rw [← List.reverse_reverse path.toList, hsplit]
      simp
    refine ⟨(before.reverse.splitOn '/').map String.ofList, String.ofList behind.reverse, ?_, fun hname => ?_⟩
    · rw [pieces, hpath, List.splitOn_append_cons_self,
        List.splitOn_eq_singleton (mt List.mem_reverse.1 hbehind), List.map_append, List.map_singleton]
    · have hnone : behind.reverse = [] := String.ofList_injective hname
      rw [hpath, hnone] at hslash
      exact hslash (by simp)
  · exact ⟨[], path, by simp [pieces, List.splitOn_eq_singleton hmem], hempty⟩

/-! ## Joining -/

theorem isAbsolute_below (hname : isAbsolute name = false) : isAbsolute (below root name) = isAbsolute root := by
  by_cases hempty : root = ""
  · subst hempty
    rw [below, if_pos (.inl rfl), String.empty_append, hname]
    rfl
  · have hhead (text : String) : isAbsolute (root ++ text) = isAbsolute root := by
      obtain ⟨c, rest, hroot⟩ := List.exists_cons_of_ne_nil (mt String.toList_eq_nil_iff.1 hempty)
      simp [isAbsolute, hroot]
    rw [below]
    split
    · exact hhead name
    · rw [String.append_assoc, hhead]

theorem not_isAbsolute_of_pieces (h : "" ∉ pieces path) : isAbsolute path = false := by
  rw [isAbsolute, decide_eq_false_iff_not]
  intro hhead
  obtain ⟨rest, hrest⟩ := List.head?_eq_some_iff.1 hhead
  refine h ?_
  have hpieces := List.splitOn_append_cons_self (a := '/') [] rest
  rw [pieces, hrest]
  rw [List.nil_append] at hpieces
  rw [hpieces, List.splitOn_nil]
  exact List.mem_cons_self

/-- Going down name by name leads to the path of the joined names. -/
theorem down_eq_below : ∀ {names : List String} {root : String}, names ≠ [] →
    (∀ name ∈ names, name ≠ "" ∧ '/' ∉ name.toList) →
    down root names = below root ("/".intercalate names)
  | [name], root, _, _ => by rw [down, List.foldl_cons, List.foldl_nil, String.intercalate_singleton]
  | name :: next :: rest, root, _, h => by
    obtain ⟨⟨hempty, hslash⟩, hrest⟩ := List.forall_mem_cons.1 h
    have hlast (front : String) : (front ++ name).toList.getLast? ≠ some '/' := by
      rw [String.toList_append,
        List.getLast?_append_of_ne_nil _ (mt String.toList_eq_nil_iff.1 hempty)]
      exact fun heq => hslash (List.mem_of_getLast? heq)
    have hjoined (front text : String) : below (front ++ name) text = front ++ (name ++ "/" ++ text) := by
      have hne : front ++ name ≠ "" := by simp [String.append_eq_empty_iff, hempty]
      rw [below, if_neg (not_or.2 ⟨hne, hlast front⟩)]
      simp only [String.append_assoc]
    have hdown : down root (name :: next :: rest) = down (below root name) (next :: rest) := rfl
    rw [hdown, down_eq_below (List.cons_ne_nil next rest) hrest, String.intercalate_cons_cons]
    generalize "/".intercalate (next :: rest) = text
    unfold below at hjoined ⊢
    split
    · exact hjoined root text
    · exact hjoined (root ++ "/") text

/-! ## Components -/

theorem ofPiece?_ne_here (piece : String) : Component.ofPiece? piece ≠ some .here := by
  unfold Component.ofPiece?
  split_ifs <;> simp

theorem ofPiece?_of_isName (h : IsName piece) : Component.ofPiece? piece = some (.name piece) := by
  rw [Component.ofPiece?, if_neg (by simp [h.not_idle]), if_neg h.2.2]

theorem filterMap_ofPiece?_of_isName (h : ∀ name ∈ names, IsName name) :
    names.filterMap Component.ofPiece? = names.map .name := by
  rw [← List.filterMap_eq_map]
  exact List.filterMap_congr fun name hname => ofPiece?_of_isName (h name hname)

/-- If no piece goes up, all pieces that move are names. -/
theorem filterMap_ofPiece?_of_no_up (h : ".." ∉ names) :
    names.filterMap Component.ofPiece? = (names.filter (!isIdle ·)).map .name := by
  rw [← List.filterMap_eq_map, List.filterMap_filter]
  refine List.filterMap_congr fun name hname => ?_
  have hup : name ≠ ".." := fun heq => h (heq ▸ hname)
  rw [Component.ofPiece?, if_neg hup]
  cases isIdle name <;> rfl

/-- The components of a path without a dot at its start. -/
def resolved (path : String) : List Component := (components path).filter (· ≠ .here)

theorem resolved_eq (path : String) :
    resolved path = (if isAbsolute path then [.top] else []) ++ (pieces path).filterMap Component.ofPiece? := by
  have hpieces : ((pieces path).filterMap Component.ofPiece?).filter (· ≠ .here) =
      (pieces path).filterMap Component.ofPiece? := by
    rw [List.filter_eq_self]
    intro component hcomponent
    obtain ⟨piece, -, hpiece⟩ := List.mem_filterMap.1 hcomponent
    have hne : component ≠ .here := by
      rintro rfl
      exact ofPiece?_ne_here piece hpiece
    simpa using hne
  rw [resolved, components, List.filter_append, hpieces]
  congr 1
  split_ifs <;> simp

theorem filterMap_below (root name : String) :
    (pieces (below root name)).filterMap Component.ofPiece? =
      (pieces root).filterMap Component.ofPiece? ++ (pieces name).filterMap Component.ofPiece? := by
  obtain ⟨front, hfront | hfront, hbelow⟩ := exists_front root
  · rw [hbelow, hfront, List.filterMap_append]
  · rw [hbelow, hfront, List.filterMap_append, List.filterMap_append]
    simp [Component.ofPiece?, isIdle]

theorem resolved_below (hname : isAbsolute name = false) :
    resolved (below root name) = resolved root ++ (pieces name).filterMap Component.ofPiece? := by
  rw [resolved_eq, resolved_eq, isAbsolute_below hname, filterMap_below, List.append_assoc]

/-- The path of names in a directory has the components of the directory and then the names. -/
theorem components_below (h : ∀ piece ∈ pieces name, IsName piece) :
    components (below root name) = components root ++ (pieces name).map .name := by
  have habsolute : isAbsolute name = false :=
    not_isAbsolute_of_pieces fun hmem => (h "" hmem).1 rfl
  have hhead : (pieces (below root name)).head? = some "." ↔ (pieces root).head? = some "." := by
    obtain ⟨front, hfront, hbelow⟩ := exists_front root
    rw [hbelow]
    cases front with
    | nil =>
      have hroot : pieces root = [""] := by
        rcases hfront with hroot | hroot
        · exact absurd hroot (pieces_ne_nil root)
        · exact hroot
      have hfirst : (pieces name).head? ≠ some "." := fun heq =>
        (h "." (List.mem_of_head? heq)).2.1 rfl
      simp [hroot, hfirst]
    | cons first rest => rcases hfront with hroot | hroot <;> simp [hroot]
  rw [components, components, isAbsolute_below habsolute, filterMap_below, filterMap_ofPiece?_of_isName h,
    ← List.append_assoc]
  simp only [hhead]

/-- Of the pieces only two dots lead out. -/
theorem exists_escapes_iff :
    (∃ component, Component.ofPiece? piece = some component ∧ component.escapes = true) ↔ piece = ".." := by
  unfold Component.ofPiece?
  split_ifs with hidle hup
  · simp only [false_and, exists_false, false_iff]
    rintro rfl
    exact absurd hidle (by decide)
  · simpa [Component.escapes] using hup
  · simpa [Component.escapes] using hup

theorem escapes_components_iff :
    (components path).any Component.escapes = true ↔ isAbsolute path = true ∨ ".." ∈ pieces path := by
  have hpieces :
      ((pieces path).filterMap Component.ofPiece?).any Component.escapes = true ↔ ".." ∈ pieces path := by
    simp only [List.any_eq_true, List.mem_filterMap]
    constructor
    · rintro ⟨component, ⟨piece, hmem, hcomponent⟩, hescapes⟩
      rw [← exists_escapes_iff.1 ⟨component, hcomponent, hescapes⟩]
      exact hmem
    · intro hmem
      obtain ⟨component, hcomponent, hescapes⟩ := exists_escapes_iff.2 rfl
      exact ⟨component, ⟨"..", hmem, hcomponent⟩, hescapes⟩
  rw [components, List.any_append, Bool.or_eq_true, hpieces]
  split_ifs with habsolute hhead
  · simp [habsolute, Component.escapes]
  · simp [habsolute, Component.escapes]
  · simp [habsolute]

/-- The way from a directory to the path of names in it is these names. -/
theorem relative?_below (h : ∀ piece ∈ pieces name, IsName piece) :
    relative? root (below root name) = some name := by
  have hway : (components root).isPrefixOf? (components (below root name)) = some ((pieces name).map .name) :=
    List.isPrefixOf?_eq_some_iff_append_eq.2 (components_below h).symm
  have htexts : ((pieces name).map Component.name).map Component.text = pieces name := by
    rw [List.map_map]
    exact List.map_id _
  rw [relative?, hway, Option.map_some, htexts, intercalate_pieces]

end PageTemplate.Path
