/-
The two listings of a template. That of its statements indents each line by the running indent, which the
keywords move from line to line; that of its program indents by the depth of the blocks, and says where a body is
empty. They show the same statements in the same places, except that the program has no line for an `end`.

A linearisation leaves the running indent where it was, whatever is inside it, so the running indent is the depth
at which the program lists the instruction. The arms of a choice begin one step deeper than their headers stand.
-/
import PageTemplate.Proofs.Expr.Printing
import PageTemplate.Proofs.Expr.Shown
import PageTemplate.Proofs.Line.Exactness
import PageTemplate.Proofs.Program.Assembled

namespace PageTemplate

/-! ## Lines of a listing -/

namespace Text

/-- The spaces that a line begins with. -/
def margin (line : Text) : Text := line.takeWhile (· = ' ')

/-- The line behind its margin. -/
def unindented (line : Text) : Text := line.dropWhile (· = ' ')

/-- The keyword that a line begins with. -/
def leadingWord (line : Text) : Text := line.unindented.takeWhile Statement.isKeywordChar

/-- Does the line only say that a body is empty? -/
def isFiller (line : Text) : Bool := line.unindented = emptyBody

theorem isFiller_eq_false {line : Text} {last : Char} (h : line.getLast? = some last) (hlast : last ≠ '.') :
    line.isFiller = false := by
  refine decide_eq_false fun hfiller => hlast ?_
  have hline : line.margin ++ line.unindented = line := List.takeWhile_append_dropWhile
  rw [← hline, hfiller] at h
  simpa [emptyBody] using h.symm

/-- The lines of a text that ends each of them with a line break. -/
theorem lines_flatMap_newline : ∀ {all : List Text}, (∀ line ∈ all, '\n' ∉ line) →
    Text.lines (all.flatMap (· ++ ['\n'])) = all ++ [[]]
  | [], _ => rfl
  | line :: rest, h => by
    obtain ⟨hline, hrest⟩ := List.forall_mem_cons.1 h
    rw [List.flatMap_cons, List.append_assoc, List.singleton_append, lines_append_cons hline,
      lines_flatMap_newline hrest, List.cons_append]

theorem newline_not_mem_listedAt {content : Text} (h : '\n' ∉ content) (indent : Nat) :
    '\n' ∉ listedAt indent content :=
  List.not_mem_append (fun hmem => absurd (List.eq_of_mem_replicate hmem) (by decide)) h

end Text

namespace Keyword

/-- The text begins with the keyword, and what follows does not continue it. -/
def Heads (keyword : Keyword) (content : Text) : Prop :=
  ∃ next rest, content = keyword.word.toList ++ next :: rest ∧ Statement.isKeywordChar next = false

variable {keyword : Keyword} {content : Text}

theorem Heads.append (h : keyword.Heads content) (more : Text) : keyword.Heads (content ++ more) := by
  obtain ⟨next, rest, rfl, hnext⟩ := h
  exact ⟨next, rest ++ more, by simp, hnext⟩

theorem Heads.margin_unindented (h : keyword.Heads content) (indent : Nat) :
    (listedAt indent content).margin = List.replicate indent ' ' ∧
      (listedAt indent content).unindented = content := by
  obtain ⟨next, rest, rfl, -⟩ := h
  obtain ⟨first, others, hword⟩ := List.exists_cons_of_ne_nil keyword.word_ne_nil
  have hfirst : first ≠ ' ' := by
    rintro rfl
    exact absurd (keyword.isKeywordChar_of_mem_word ' ' (by rw [hword]; exact List.mem_cons_self)) (by decide)
  have hspaces : ∀ c ∈ List.replicate indent ' ', decide (c = ' ') = true := fun c hc =>
    decide_eq_true (List.eq_of_mem_replicate hc)
  unfold Text.margin Text.unindented listedAt
  rw [List.takeWhile_append_of_pos hspaces, List.dropWhile_append_of_pos hspaces, hword]
  simp [hfirst]

theorem Heads.margin (h : keyword.Heads content) (indent : Nat) :
    (listedAt indent content).margin = List.replicate indent ' ' := (h.margin_unindented indent).1

theorem Heads.leadingWord (h : keyword.Heads content) (indent : Nat) :
    (listedAt indent content).leadingWord = keyword.word.toList := by
  rw [Text.leadingWord, (h.margin_unindented indent).2]
  obtain ⟨next, rest, rfl, hnext⟩ := h
  have hspelled : Tag.Spelled ⟨[], keyword.word.toList, next :: rest, []⟩ :=
    ⟨keyword.isKeywordChar_of_mem_word, fun c hc => by cases hc; exact hnext⟩
  exact hspelled.span.1

end Keyword

theorem Control.heads_content {c : Control} (h : c.keyword ≠ .endBlock) : c.keyword.Heads c.content := by
  unfold content
  split
  · exact absurd ‹_› h
  · rename_i condition _ _
    exact ⟨' ', condition ++ [':'], by simp, by decide⟩
  · exact ⟨':', [], rfl, by decide⟩

/-- The text is a header in the listing of a program: one line that begins with the keyword and ends with a colon. -/
structure Keyword.IsHeader (keyword : Keyword) (content : Text) : Prop where
  heads : keyword.Heads content
  colon : content.getLast? = some ':'
  oneLine : '\n' ∉ content

theorem isHeader_armHeader (first : Bool) (condition : Expr) :
    (if first then Keyword.ifBlock else .elifBranch).IsHeader (armHeader first condition) where
  heads := by
    have hword : (if first then Keyword.ifBlock else .elifBranch).Heads (if first then "if " else "elif ").toList := by
      cases first <;> exact ⟨' ', [], by decide +kernel, by decide⟩
    exact (hword.append _).append _
  colon := List.getLast?_concat
  oneLine := by
    have hword : '\n' ∉ (if first then "if " else "elif ").toList := by cases first <;> decide +kernel
    exact List.not_mem_append (List.not_mem_append hword condition.newline_not_mem_shown) (by decide)

theorem isHeader_else : Keyword.elseBranch.IsHeader "else:".toList where
  heads := ⟨':', [], by decide +kernel, by decide⟩
  colon := by decide +kernel
  oneLine := by decide +kernel

theorem LoopHeader.isHeader_listed {text : Text} {header : LoopHeader} (h : Expr.parseHeader text = .ok header) :
    Keyword.forLoop.IsHeader header.listed where
  heads := by
    have hword : Keyword.forLoop.Heads "for ".toList := ⟨' ', [], by decide +kernel, by decide⟩
    exact (((hword.append _).append _).append _).append _
  colon := List.getLast?_concat
  oneLine := newline_not_mem_listed h

/-! ## Statements and the lines that show them -/

namespace Statement

/-- The step that a statement is, if no placeholder is replaced in it. -/
def asStep : Statement → Step
  | .literal l => .emit [.text l.content]
  | .control c => .control c

/-- Does the statement close a block? -/
def isEnd : Statement → Bool
  | .literal _ => false
  | .control c => c.keyword = .endBlock

/-- The running indent behind statements. -/
def indentAfter (indent : Int32) (statements : List Statement) : Int32 :=
  statements.foldl (fun _ s => s.nextIndent) indent

/-- The line of a program that shows a statement: for a literal line the line that the statement is listed as, for a
control line one with the same margin and the same keyword. -/
inductive Shows : Statement → Text → Prop
  | literal (l : Literal) : Shows (.literal l) (listed (.literal l))
  | control {c : Control} {line : Text} :
      line.margin = (listed (.control c)).margin → line.leadingWord = c.keyword.word.toList →
      (listed (.control c)).leadingWord = c.keyword.word.toList → Shows (.control c) line

/-- Lines show statements: each that is no `end` has a line of its own, and the other lines are fillers. -/
structure ShownBy (statements : List Statement) (lines : List Text) : Prop where
  shown : List.Forall₂ Shows (statements.filter (!·.isEnd)) (lines.filter (!·.isFiller))
  oneLine : ∀ line ∈ lines, '\n' ∉ line

namespace ShownBy

theorem append {statements more : List Statement} {lines behind : List Text} (h : ShownBy statements lines)
    (hmore : ShownBy more behind) : ShownBy (statements ++ more) (lines ++ behind) := by
  refine ⟨?_, List.forall_mem_append.2 ⟨h.oneLine, hmore.oneLine⟩⟩
  rw [List.filter_append, List.filter_append]
  exact List.rel_append h.shown hmore.shown

theorem nil : ShownBy [] [] := ⟨.nil, List.forall_mem_nil _⟩

theorem filler (indent : Nat) : ShownBy [] [listedAt indent emptyBody] := by
  have hfiller : (listedAt indent emptyBody).isFiller = true := by
    refine decide_eq_true ?_
    rw [Text.unindented, listedAt, List.dropWhile_append_of_pos fun c hc =>
      decide_eq_true (List.eq_of_mem_replicate hc)]
    rfl
  refine ⟨?_, List.forall_mem_singleton.2 (Text.newline_not_mem_listedAt (by decide) indent)⟩
  simp [hfiller]

theorem ends {d : Control} (h : d.keyword = .endBlock) : ShownBy [.control d] [] := by
  refine ⟨?_, List.forall_mem_nil _⟩
  simp [isEnd, h]

theorem literal {l : Literal} {indent : Nat} (hindent : l.indent.toInt = indent) (hbuffer : '\n' ∉ l.buffer.toList)
    (hcontent : '\n' ∉ l.content) : ShownBy [.literal l] [listedAt indent (appended l.buffer l.content)] := by
  have hlisted : listedAt indent (appended l.buffer l.content) = listed (.literal l) := by
    rw [listed, indentation, hindent, Int.toNat_natCast, listedAt]
  have hline : '\n' ∉ appended l.buffer l.content :=
    List.not_mem_append (List.not_mem_append (List.not_mem_append hbuffer (by decide +kernel))
      (Text.newline_not_mem_quoted hcontent)) (by decide)
  have hlast : (listedAt indent (appended l.buffer l.content)).getLast? = some ')' := by
    rw [listedAt, appended, ← List.append_assoc, List.getLast?_concat]
  have hfiller := Text.isFiller_eq_false hlast (by decide)
  refine ⟨?_, List.forall_mem_singleton.2 (Text.newline_not_mem_listedAt hline indent)⟩
  have hshows : Shows (.literal l) (listedAt indent (appended l.buffer l.content)) := by
    rw [hlisted]
    exact .literal l
  simpa [isEnd, hfiller] using hshows

theorem header {c : Control} {indent : Nat} {content : Text} (hindent : c.indent.toInt = indent)
    (hkeyword : c.keyword ≠ .endBlock) (h : c.keyword.IsHeader content) :
    ShownBy [.control c] [listedAt indent content] := by
  have hlisted : listed (.control c) = listedAt indent c.content := by
    rw [listed, indentation, hindent, Int.toNat_natCast, listedAt]
  have hheads := Control.heads_content hkeyword
  have hlast : (listedAt indent content).getLast? = some ':' := by
    rw [listedAt, List.getLast?_append, h.colon, Option.some_or]
  have hfiller := Text.isFiller_eq_false hlast (by decide)
  have hshows : Shows (.control c) (listedAt indent content) := by
    refine .control ?_ (h.heads.leadingWord indent) ?_
    · rw [hlisted, h.heads.margin, hheads.margin]
    · rw [hlisted, hheads.leadingWord]
  refine ⟨?_, List.forall_mem_singleton.2 (Text.newline_not_mem_listedAt h.oneLine indent)⟩
  simpa [isEnd, hkeyword, hfiller] using hshows

/-- A body is shown by its lines, and one without any by its filler. -/
theorem orFiller {statements : List Statement} {lines : List Text} {nodes : List Node} (h : ShownBy statements lines)
    (hnil : nodes = [] → statements = []) (indent : Nat) : ShownBy statements (bodyOr indent nodes lines) := by
  cases nodes with
  | nil =>
    rw [hnil rfl]
    exact filler indent
  | cons => exact h

end ShownBy

/-! ## The running indent -/

/-- Statements as they are compiled for a buffer from a running indent on: each is placed by those before it and by
itself, and each literal line is appended to the buffer. -/
structure Placed (buffer : String) (indent : Int) (statements : List Statement) : Prop where
  indents : ∀ before s after, statements = before ++ s :: after →
    s.indent.toInt = indent + advance before + s.ownShift.toInt
  literals : ∀ l, .literal l ∈ statements → l.buffer = buffer ∧ '\n' ∉ l.buffer.toList ∧ '\n' ∉ l.content

namespace Placed

variable {buffer : String} {indent : Int} {s : Statement} {first second : List Statement}

theorem left (h : Placed buffer indent (first ++ second)) : Placed buffer indent first where
  indents before s after heq := h.indents before s (after ++ second) (by rw [heq, List.append_assoc, List.cons_append])
  literals l hl := h.literals l (List.mem_append_left _ hl)

theorem right (h : Placed buffer indent (first ++ second)) : Placed buffer (indent + advance first) second where
  indents before s after heq := by
    rw [h.indents (first ++ before) s after (by rw [heq, List.append_assoc])]
    simp only [advance, List.map_append, List.sum_append]
    omega
  literals l hl := h.literals l (List.mem_append_right _ hl)

theorem tail (h : Placed buffer indent (s :: second)) : Placed buffer (indent + s.nextShift.toInt) second := by
  have hright : Placed buffer (indent + advance [s]) second := right h
  rwa [advance, List.map_singleton, List.sum_singleton] at hright

theorem head (h : Placed buffer indent (s :: second)) : s.indent.toInt = indent + s.ownShift.toInt := by
  have hhead := h.indents [] s second rfl
  rwa [advance, List.map_nil, List.sum_nil, Int.add_zero] at hhead

end Placed

/-- A keyword that is moved back stands where the header of the body before it stands. -/
theorem turns_back {keyword : Keyword} (h : keyword.ownShift = -2) (indent : Nat) :
    ((indent + 2 : Nat) : Int) + keyword.ownShift.toInt = indent := by
  have hshift : (-2 : Int32).toInt = -2 := by decide
  rw [h, hshift]
  omega

/-- The header of a body, the body and what follows: if the keyword leads from the running indent to the indent of
the header and one step further, the body and what follows it are placed there. -/
theorem ShownBy.block {buffer : String} {running : Int} {indent : Nat} {keyword : Keyword} {c : Control}
    {body behind : List Statement} {content : Text} {nodes : List Node} {lines rest : List Text}
    (hplaced : Placed buffer running (.control c :: (body ++ behind))) (hkeyword : c.keyword = keyword)
    (hne : keyword ≠ .endBlock) (hown : running + keyword.ownShift.toInt = indent)
    (hnext : running + keyword.nextShift.toInt = (indent + 2 : Nat)) (hheader : keyword.IsHeader content)
    (hadvance : advance body = 0) (hnil : nodes = [] → body = [])
    (hbody : Placed buffer (indent + 2 : Nat) body → ShownBy body lines)
    (hbehind : Placed buffer (indent + 2 : Nat) behind → ShownBy behind rest) :
    ShownBy (.control c :: (body ++ behind)) (listedAt indent content :: bodyOr (indent + 2) nodes lines ++ rest) := by
  subst hkeyword
  have hhead : c.indent.toInt = indent := hplaced.head.trans hown
  have htail : Placed buffer (indent + 2 : Nat) (body ++ behind) := by
    rw [← hnext]
    exact hplaced.tail
  -- the body leads back to the indent that it begins with, so what follows it begins there as well
  have hright := htail.right
  rw [hadvance, Int.add_zero] at hright
  exact ((ShownBy.header hhead hne hheader).append ((hbody htail.left).orFiller hnil _)).append (hbehind hright)

/-- An indent of zero leaves room for two on each of so many lines. -/
theorem room_for_lines {count : Nat} (h : count < 2 ^ 29) : (0 : Int32).toInt.natAbs + 2 * count ≤ 2 ^ 30 := by
  rw [Int32.toInt_zero]
  omega

theorem placed_of_ofLines {buffer : String} {lines : List Text} {statements : List Statement}
    (hlength : lines.length < 2 ^ 29) (hlines : ∀ line ∈ lines, '\n' ∉ line) (hbuffer : '\n' ∉ buffer.toList)
    (h : ofLines buffer lines = .ok statements) : Placed buffer 0 statements where
  indents before s after heq := by
    rw [toInt_indent_of_ofLinesFrom h (room_for_lines hlength) before s after heq, Int32.toInt_zero]
  literals l hl := by
    obtain ⟨line, hline, hcompiled⟩ := exists_right_of_forall₂ (compiled_of_ofLinesFrom h).flip hl
    cases hcompiled
    exact ⟨rfl, hbuffer, hlines _ hline⟩

/-- The running indent behind lines is what their statements add to it. -/
theorem toInt_indentAfter_of_ofLinesFrom {buffer : String} : ∀ {lines : List Text} {number : Nat} {indent : Int32}
    {statements : List Statement}, ofLinesFrom buffer number indent lines = .ok statements →
    indent.toInt.natAbs + 2 * lines.length ≤ 2 ^ 30 →
      (indentAfter indent statements).toInt = indent.toInt + advance statements
  | [], _, indent, _, h, _ => by
    cases h
    exact (Int.add_zero _).symm
  | line :: lines, number, indent, _, h, hbound => by
    obtain ⟨s, more, hs, hmore, rfl⟩ := ofLinesFrom_cons_eq_ok_iff.1 h
    rw [List.length_cons] at hbound
    obtain ⟨-, hnext⟩ := toInt_indents_of_ofLine hs (by omega)
    have hshift := s.natAbs_shifts.2
    have hrest := toInt_indentAfter_of_ofLinesFrom hmore (by omega)
    show (indentAfter s.nextIndent more).toInt = _
    rw [hrest, hnext]
    simp only [advance, List.map_cons, List.sum_cons]
    omega

end Statement

/-! ## Linearisations -/

/-- How far a step moves the running indent. -/
def Step.nextShift : Step → Int
  | .control c => c.keyword.nextShift.toInt
  | _ => 0

theorem Step.nextShift_control {c : Control} {keyword : Keyword} (h : c.keyword = keyword) :
    Step.nextShift (.control c) = keyword.nextShift.toInt := by rw [nextShift, h]

theorem Statement.advance_eq_sum (statements : List Statement) :
    advance statements = ((statements.map asStep).map Step.nextShift).sum := by
  rw [advance, List.map_map]
  congr 1
  exact List.map_congr_left fun s _ => by cases s <;> rfl

mutual

/-- An instruction leaves the running indent where it was. -/
theorem Node.Linear.sum_nextShift : ∀ {node : Node} {steps : List Step}, node.Linear steps →
    (steps.map Step.nextShift).sum = 0
  | _, _, .emit _ | _, _, .block _ => rfl
  | _, _, .choice hc hbody hrest => by
    rw [List.map_cons, List.sum_cons, List.map_append, List.sum_append, Step.nextShift_control hc.1,
      hbody.sum_nextShift, hrest.sum_nextShift]
    rfl
  | _, _, .loop hc hbody hd => by
    rw [List.map_cons, List.sum_cons, List.map_append, List.sum_append, Step.nextShift_control hc.1,
      hbody.sum_nextShift, List.map_singleton, List.sum_singleton, Step.nextShift_control hd]
    rfl

/-- The arms after the first one lead out of the choice. -/
theorem Arms.Linear.sum_nextShift : ∀ {arms : Arms} {steps : List Step}, arms.Linear steps →
    (steps.map Step.nextShift).sum = -2
  | _, _, .done hd => by
    rw [List.map_singleton, List.sum_singleton, Step.nextShift_control hd]
    rfl
  | _, _, .otherwise hc hbody hd => by
    rw [List.map_cons, List.sum_cons, List.map_append, List.sum_append, Step.nextShift_control hc,
      hbody.sum_nextShift, List.map_singleton, List.sum_singleton, Step.nextShift_control hd]
    rfl
  | _, _, .test hc hbody hrest => by
    rw [List.map_cons, List.sum_cons, List.map_append, List.sum_append, Step.nextShift_control hc.1,
      hbody.sum_nextShift, hrest.sum_nextShift]
    rfl

theorem LinearBody.sum_nextShift : ∀ {nodes : List Node} {steps : List Step}, LinearBody nodes steps →
    (steps.map Step.nextShift).sum = 0
  | _, _, .nil => rfl
  | _, _, .cons hnode hnodes => by
    rw [List.map_append, List.sum_append, hnode.sum_nextShift, hnodes.sum_nextShift, Int.add_zero]

end

namespace Statement

theorem eq_control_of_asStep {s : Statement} {c : Control} (h : s.asStep = .control c) : s = .control c := by
  cases s with
  | literal => cases h
  | control => cases h; rfl

/-- Statements whose steps begin with a control line begin with it. -/
theorem exists_of_map_asStep {statements : List Statement} {c : Control} {steps : List Step}
    (h : statements.map asStep = .control c :: steps) :
    ∃ rest, statements = .control c :: rest ∧ rest.map asStep = steps := by
  obtain ⟨s, rest, rfl, hs, hrest⟩ := List.map_eq_cons_iff.1 h
  exact ⟨rest, by rw [eq_control_of_asStep hs], hrest⟩

theorem eq_of_map_asStep {statements : List Statement} {c : Control} (h : statements.map asStep = [.control c]) :
    statements = [.control c] := by
  obtain ⟨rest, rfl, hrest⟩ := exists_of_map_asStep h
  rw [List.map_eq_nil_iff.1 hrest]

/-- Statements whose steps are those of a body, in front of others. -/
theorem exists_body_of_map_asStep {statements : List Statement} {nodes : List Node} {body steps : List Step}
    (hbody : LinearBody nodes body) (h : statements.map asStep = body ++ steps) :
    ∃ first second, statements = first ++ second ∧ first.map asStep = body ∧ second.map asStep = steps ∧
      advance first = 0 ∧ (nodes = [] → first = []) := by
  obtain ⟨first, second, rfl, hfirst, hsecond⟩ := List.map_eq_append_iff.1 h
  refine ⟨first, second, rfl, hfirst, hsecond, ?_, ?_⟩
  · rw [advance_eq_sum, hfirst, hbody.sum_nextShift]
  · rintro rfl
    cases hbody
    exact List.map_eq_nil_iff.1 hfirst

end Statement

open Statement (ShownBy Placed asStep)

variable {buffer : String}

mutual

/-- The step lemma: an instruction is listed as its statements are, at the running indent that they begin with. -/
theorem Node.Linear.shownBy : ∀ {node : Node} {steps : List Step}, node.Linear steps →
    ∀ {statements : List Statement} {indent : Nat}, statements.map asStep = steps →
      Placed buffer indent statements → ShownBy statements (node.listed buffer indent)
  | _, _, .emit segments, statements, indent, hsteps, hplaced => by
    obtain ⟨s, rest, rfl, hs, hrest⟩ := List.map_eq_cons_iff.1 hsteps
    obtain rfl := List.map_eq_nil_iff.1 hrest
    cases s with
    | control => cases hs
    | literal l =>
      cases hs
      obtain ⟨rfl, hbuffer, hcontent⟩ := hplaced.literals l List.mem_cons_self
      have hindent : l.indent.toInt = indent := hplaced.head.trans (Int.add_zero _)
      simpa [Node.listed, Segment.shown] using ShownBy.literal hindent hbuffer hcontent
  | _, _, .block nodes, statements, indent, hsteps, hplaced => by
    -- blocks come from values of several lines, and no statement is one by itself
    obtain ⟨s, rest, rfl, hs, -⟩ := List.map_eq_cons_iff.1 hsteps
    cases s <;> cases hs
  | _, _, .choice hc hbody hrest, statements, indent, hsteps, hplaced => by
    obtain ⟨behind, rfl, hbehind⟩ := Statement.exists_of_map_asStep hsteps
    obtain ⟨body, arms, rfl, hbody', harms, hadvance, hnil⟩ := Statement.exists_body_of_map_asStep hbody hbehind
    rw [Node.listed, Arms.listed]
    exact .block hplaced hc.1 (by decide) (Int.add_zero _) rfl (isHeader_armHeader true _) hadvance hnil
      (hbody.shownBy hbody') (hrest.shownBy harms)
  | _, _, .loop hc hbody hd, statements, indent, hsteps, hplaced => by
    obtain ⟨behind, rfl, hbehind⟩ := Statement.exists_of_map_asStep hsteps
    obtain ⟨body, last, rfl, hbody', hlast, hadvance, hnil⟩ := Statement.exists_body_of_map_asStep hbody hbehind
    obtain rfl := Statement.eq_of_map_asStep hlast
    have hblock := ShownBy.block hplaced hc.1 (by decide) (Int.add_zero _) rfl (LoopHeader.isHeader_listed hc.2)
      hadvance hnil (hbody.shownBy hbody') fun _ => .ends hd
    rw [Node.listed]
    rwa [List.append_nil] at hblock

/-- The arms after the first one: their headers stand one step before the running indent. -/
theorem Arms.Linear.shownBy : ∀ {arms : Arms} {steps : List Step}, arms.Linear steps →
    ∀ {statements : List Statement} {indent : Nat}, statements.map asStep = steps →
      Placed buffer (indent + 2 : Nat) statements → ShownBy statements (arms.listed buffer indent false)
  | _, _, .done hd, statements, indent, hsteps, hplaced => by
    rw [Statement.eq_of_map_asStep hsteps, Arms.listed]
    exact .ends hd
  | _, _, .otherwise hc hbody hd, statements, indent, hsteps, hplaced => by
    obtain ⟨behind, rfl, hbehind⟩ := Statement.exists_of_map_asStep hsteps
    obtain ⟨body, last, rfl, hbody', hlast, hadvance, hnil⟩ := Statement.exists_body_of_map_asStep hbody hbehind
    obtain rfl := Statement.eq_of_map_asStep hlast
    have hblock := ShownBy.block hplaced hc (by decide) (Statement.turns_back rfl _) (Int.add_zero _) isHeader_else
      hadvance hnil (hbody.shownBy hbody') fun _ => .ends hd
    rw [Arms.listed]
    rwa [List.append_nil] at hblock
  | _, _, .test hc hbody hrest, statements, indent, hsteps, hplaced => by
    obtain ⟨behind, rfl, hbehind⟩ := Statement.exists_of_map_asStep hsteps
    obtain ⟨body, arms, rfl, hbody', harms, hadvance, hnil⟩ := Statement.exists_body_of_map_asStep hbody hbehind
    rw [Arms.listed]
    exact .block hplaced hc.1 (by decide) (Statement.turns_back rfl _) (Int.add_zero _) (isHeader_armHeader false _)
      hadvance hnil (hbody.shownBy hbody') (hrest.shownBy harms)

theorem LinearBody.shownBy : ∀ {nodes : List Node} {steps : List Step}, LinearBody nodes steps →
    ∀ {statements : List Statement} {indent : Nat}, statements.map asStep = steps →
      Placed buffer indent statements → ShownBy statements (listedNodes buffer indent nodes)
  | _, _, .nil, statements, indent, hsteps, hplaced => by
    rw [List.map_eq_nil_iff.1 hsteps, listedNodes]
    exact .nil
  | _, _, .cons hnode hnodes, statements, indent, hsteps, hplaced => by
    obtain ⟨first, second, rfl, hfirst, hsecond⟩ := List.map_eq_append_iff.1 hsteps
    have hright := hplaced.right
    rw [Statement.advance_eq_sum, hfirst, hnode.sum_nextShift, Int.add_zero] at hright
    rw [listedNodes]
    exact (hnode.shownBy hfirst hplaced.left).append (hnodes.shownBy hsecond hright)

end

/-- The listing of a program shows the statements that it was made of. Without the lines that say that a body is
empty it has one line for every statement that is no `end`, in their order: for a literal line the very line that the
statement is listed as, and for another one a header with the same margin and the same keyword. Behind the last line
the running indent is where it began. -/
theorem Program.listing_shows_statements {lines : List Text} {statements : List Statement}
    {program : Program} (hlength : lines.length < 2 ^ 29) (hlines : ∀ line ∈ lines, '\n' ∉ line)
    (hbuffer : '\n' ∉ buffer.toList) (hcompiled : Statement.ofLines buffer lines = .ok statements)
    (hassembled : assemble (statements.map asStep) = .ok program) :
    ∃ shown, Text.lines (program.listing buffer) = shown ++ [[]] ∧
      List.Forall₂ Statement.Shows (statements.filter (!·.isEnd)) (shown.filter (!·.isFiller)) ∧
      Statement.indentAfter 0 statements = 0 := by
  have hlinear : LinearBody program.nodes (statements.map asStep) := assemble_eq_ok_iff.1 hassembled
  have hshown : ShownBy statements (listedNodes buffer 0 program.nodes) :=
    hlinear.shownBy rfl (Statement.placed_of_ofLines hlength hlines hbuffer hcompiled)
  refine ⟨listedNodes buffer 0 program.nodes, Text.lines_flatMap_newline hshown.oneLine, hshown.shown, ?_⟩
  have hindent := Statement.toInt_indentAfter_of_ofLinesFrom hcompiled (Statement.room_for_lines hlength)
  rw [← Int32.toInt_inj, hindent, Statement.advance_eq_sum, hlinear.sum_nextShift, Int.add_zero]

/-- A choice in a loop, with an arm that is empty. -/
theorem Program.listing_shows_statements_of_nested :
    let lines : List Text := ["\x7b% for i in a %\x7d".toList, "\x7b% if a %\x7d".toList,
      "\x7b% else %\x7d".toList, ['x'], "\x7b% end %\x7d".toList, "\x7b% end %\x7d".toList]
    ∃ statements program, Statement.ofLines "output" lines = .ok statements ∧
      assemble (statements.map asStep) = .ok program ∧ ∃ shown,
        Text.lines (program.listing "output") = shown ++ [[]] ∧
        List.Forall₂ Statement.Shows (statements.filter (!·.isEnd)) (shown.filter (!·.isFiller)) ∧
        Statement.indentAfter 0 statements = 0 := by
  intro lines
  have hcompiled : Statement.ofLines "output" lines = .ok [.control ⟨.forLoop, some "i in a".toList, 0, 2⟩,
      .control ⟨.ifBlock, some ['a'], 2, 4⟩, .control ⟨.elseBranch, none, 2, 4⟩, .literal ⟨['x'], 4, 4, "output"⟩,
      .control ⟨.endBlock, none, 2, 2⟩, .control ⟨.endBlock, none, 0, 0⟩] := rfl
  have hspelled : Symbol.Spelled [.name "a"] ['a'] :=
    @Symbol.Spelled.cons _ _ [] ['a'] [] (by decide) (@Symbol.Word.name "a" (by decide +kernel)) (by decide)
      (.nil (by decide))
  have hcondition : Expr.parse ['a'] = .ok (.name "a") := by
    rw [Expr.parse, hspelled.read]
    rfl
  have hheader : Expr.parseHeader "i in a".toList = .ok ⟨["i"], .name "a"⟩ := by
    have hread := (@Expr.spelled_header _ ['a'] [] (by decide) hspelled "i" [] (by decide +kernel)).read
    have htext : "i in a".toList = [','].intercalate (["i"].map String.toList) ++ (" in ".toList ++ ['a']) := by
      decide +kernel
    rw [Expr.parseHeader, htext, hread]
    rfl
  have hchoice : Node.Linear (.choice (.test (.name "a") [] (.otherwise [.emit [.text ['x']]]))) _ :=
    .choice (c := ⟨.ifBlock, some ['a'], 2, 4⟩) ⟨rfl, hcondition⟩ .nil
      (.otherwise (c := ⟨.elseBranch, none, 2, 4⟩) (d := ⟨.endBlock, none, 2, 2⟩) rfl (.cons (.emit _) .nil) rfl)
  have hlinear := LinearBody.cons (.loop (c := ⟨.forLoop, some "i in a".toList, 0, 2⟩)
    (d := ⟨.endBlock, none, 0, 0⟩) ⟨rfl, hheader⟩ (.cons hchoice .nil) rfl) .nil
  have hassembled := assemble_eq_ok_iff (p := ⟨_⟩).2 hlinear
  exact ⟨_, _, hcompiled, hassembled,
    listing_shows_statements (by decide) (by decide +kernel) (by decide +kernel) hcompiled hassembled⟩

end PageTemplate
