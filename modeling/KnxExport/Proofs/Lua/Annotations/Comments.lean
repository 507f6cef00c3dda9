import KnxExport.Lua.Annotations
import KnxExport.Proofs.Lua.Lexer
import KnxExport.Proofs.Lua.Literal
import KnxExport.Proofs.Text.Lines

/-!
# The annotations are comments

Every line of the annotations is empty or begins with three dashes and a character that does not
open a long bracket, and no text of a record brings a break into a line: descriptions are cut at
their breaks, and in names the breaks are escaped. So Lua sees nothing in the document.

Main statement: `tokens_annotations`. It rests on `isCommentLine_of_mem_lines`, what each line looks
like, and on `lex_comments`, by induction over the lines.
-/

namespace KnxExport.Lua.Annotations

open Text (splitOn_unlines toList_unlines_cons)

/-! ## What a line looks like -/

/-- A line that is empty, or a comment of one of the forms that annotations have. -/
def IsComment (line : List Char) : Prop :=
  line = [] ∨ ∃ c rest, line = '-' :: '-' :: '-' :: c :: rest ∧ (c = ' ' ∨ c = '|' ∨ c = '@')

/-- The line is empty or a comment, and has no break in it. -/
structure IsCommentLine (line : String) : Prop where
  form : IsComment line.toList
  unbroken : ∀ c ∈ line.toList, isLineEnd c = false

/-- Where no character is a break, none of them is one. -/
theorem isLineEnd_of_any {chars : List Char} (h : chars.any isLineEnd = false) :
    ∀ c ∈ chars, isLineEnd c = false := by
  intro c hc
  exact Bool.eq_false_iff.mpr (List.any_eq_false.mp h c hc)

/-- A break is a control. -/
theorem isControl_of_isLineEnd {c : Char} (h : isLineEnd c = true) : Text.isControl c = true := by
  rw [isLineEnd, Bool.or_eq_true, beq_iff_eq, beq_iff_eq] at h
  rcases h with rfl | rfl
  · rfl
  · rfl

/-- A text is written as a literal without a break. -/
theorem isLineEnd_of_mem_literal (text : String) :
    ∀ c ∈ (literal text).toList, isLineEnd c = false := by
  intro c hc
  apply Bool.eq_false_iff.mpr
  intro hend
  have hcontrol := isControl_of_mem_literal hc
  rw [isControl_of_isLineEnd hend] at hcontrol
  cases hcontrol

/-- The alias of a kind has no break in it. -/
theorem isLineEnd_of_mem_kindAlias (kind : Kind) :
    ∀ c ∈ (kindAlias kind).toList, isLineEnd c = false := by
  cases kind <;> exact isLineEnd_of_any (by decide)

/-- The lines of a comment have the form of a comment, and no break. -/
theorem isCommentLine_of_mem_comment {text line : String} (h : line ∈ comment text) :
    IsCommentLine line := by
  obtain ⟨piece, hpiece, rfl⟩ := List.mem_map.mp h
  have hchars : ("--- " ++ String.ofList piece).toList = '-' :: '-' :: '-' :: ' ' :: piece := by
    simp
  refine ⟨.inr ⟨' ', piece, hchars, .inl rfl⟩, ?_⟩
  intro c hc
  simp only [hchars, List.mem_cons] at hc
  obtain rfl | rfl | rfl | rfl | hmem := hc
  · decide
  · decide
  · decide
  · decide
  · have hbreak := Text.not_break_of_mem_lines hpiece c hmem
    simp [isLineEnd, hbreak.1, hbreak.2]

/-- A line that opens an alias is a comment, if the alias has no break in its name. -/
theorem isCommentLine_aliasLine {name : String} (h : ∀ c ∈ name.toList, isLineEnd c = false) :
    IsCommentLine (aliasLine name) := by
  have hchars : (aliasLine name).toList = "---@alias ".toList ++ name.toList := by
    rw [aliasLine, String.toList_append]
  refine ⟨.inr ⟨'@', _, hchars, .inr (.inr rfl)⟩, ?_⟩
  rw [hchars, List.forall_mem_append]
  exact ⟨isLineEnd_of_any (by decide), h⟩

/-- A line that adds a member is a comment, if the member has no break in it. -/
theorem isCommentLine_memberLine {member : String} (h : ∀ c ∈ member.toList, isLineEnd c = false) :
    IsCommentLine (memberLine member) := by
  have hchars : (memberLine member).toList = "---|".toList ++ member.toList := by
    rw [memberLine, String.toList_append]
  refine ⟨.inr ⟨'|', _, hchars, .inr (.inl rfl)⟩, ?_⟩
  rw [hchars, List.forall_mem_append]
  exact ⟨isLineEnd_of_any (by decide), h⟩

/-- The lines for a record are comments without breaks. -/
theorem isCommentLine_of_mem_entry {g : GroupAddress} {line : String} (h : line ∈ entry g) :
    IsCommentLine line := by
  simp only [entry, documentation, List.mem_append, List.mem_singleton] at h
  obtain (hcomment | hflag) | rfl := h
  · exact isCommentLine_of_mem_comment hcomment
  · split at hflag
    · obtain rfl := List.mem_singleton.mp hflag
      exact ⟨.inr ⟨' ', _, rfl, .inl rfl⟩, isLineEnd_of_any (by decide)⟩
    · simp at hflag
  · exact isCommentLine_memberLine (isLineEnd_of_mem_literal g.displayName)

/-- Every line of the document is empty or a comment, and has no break in it. -/
theorem isCommentLine_of_mem_lines {records : List GroupAddress} {line : String}
    (h : line ∈ lines records) : IsCommentLine line := by
  simp only [lines, block, List.cons_append, List.nil_append, List.mem_cons, List.mem_append,
    List.mem_map, List.mem_flatMap] at h
  obtain rfl | ⟨group, -, rfl⟩ | ⟨group, -, rfl | rfl | ⟨g, -, hentry⟩⟩ := h
  · exact isCommentLine_aliasLine (isLineEnd_of_any (by decide))
  · exact isCommentLine_memberLine (isLineEnd_of_mem_kindAlias group.kind)
  · exact ⟨.inl rfl, by simp⟩
  · exact isCommentLine_aliasLine (isLineEnd_of_mem_kindAlias group.kind)
  · exact isCommentLine_of_mem_entry hentry

/-! ## The document -/

/-- The lines of the document are read back from it. -/
theorem splitOn_document (records : List GroupAddress) :
    (document records).toList.splitOn '\n' = (lines records).map String.toList ++ [[]] := by
  refine splitOn_unlines ?_
  intro line hline hfeed
  exact absurd ((isCommentLine_of_mem_lines hline).unbroken _ hfeed) (by decide)

/-- Comments have no tokens. -/
theorem lex_comments {lines : List String} (h : ∀ line ∈ lines, IsCommentLine line) :
    lex (Text.unlines lines).toList = some [] := by
  induction lines with
  | nil => exact lex_nil
  | cons line lines ih =>
    rw [List.forall_mem_cons] at h
    obtain ⟨⟨hform, hbreak⟩, hlines⟩ := h
    rw [toList_unlines_cons]
    obtain hempty | ⟨c, rest, hline, -⟩ := hform
    · rw [hempty, List.nil_append, lex_space (by decide), ih hlines]
    · rw [hline] at hbreak ⊢
      have hrest : ('-' :: c :: rest).any isLineEnd = false := by
        rw [List.any_eq_false]
        intro d hd
        simp [hbreak d (List.mem_cons_of_mem _ (List.mem_cons_of_mem _ hd))]
      have hlex := lex_comment hrest (by simp) (Text.unlines lines).toList
      rw [← ih hlines, ← hlex]
      rfl

/-- A text of lines has the characters of the lines, and line feeds. -/
theorem eq_feed_or_mem_of_mem_unlines {lines : List String} {c : Char}
    (h : c ∈ (Text.unlines lines).toList) : c = '\n' ∨ ∃ line ∈ lines, c ∈ line.toList := by
  induction lines with
  | nil => simp [Text.unlines] at h
  | cons line lines ih =>
    rw [toList_unlines_cons, List.mem_append, List.mem_cons] at h
    obtain hline | hfeed | hlater := h
    · exact .inr ⟨line, List.mem_cons_self, hline⟩
    · exact .inl hfeed
    · obtain hfeed | ⟨later, hmem, hc⟩ := ih hlater
      · exact .inl hfeed
      · exact .inr ⟨later, List.mem_cons_of_mem _ hmem, hc⟩

/-- A line feed ends the last of some lines. -/
theorem getLast?_unlines {lines : List String} (h : lines ≠ []) :
    (Text.unlines lines).toList.getLast? = some '\n' := by
  induction lines with
  | nil => exact absurd rfl h
  | cons line lines ih =>
    rw [toList_unlines_cons]
    cases lines with
    | nil => simp [Text.unlines]
    | cons next lines =>
      rw [List.getLast?_append, List.getLast?_cons, ih (by simp)]
      rfl

/-- **Nothing leaks out of a comment.** Whatever the names and descriptions of the records are, the
document holds no carriage return, ends with a line feed, and each of its lines is empty or begins
with three dashes and then a space, a bar or an at sign. So it opens no long comment, and Lua finds
no token in it. -/
theorem tokens_annotations (records : List GroupAddress) :
    '\r' ∉ (document records).toList ∧
      (document records).toList.getLast? = some '\n' ∧
      (∀ line ∈ (document records).toList.splitOn '\n',
        IsComment line ∧ opensLong (line.drop 2) = false) ∧
      tokens (document records) = some [] := by
  have hlines : ∀ line ∈ lines records, IsCommentLine line := fun line hline =>
    isCommentLine_of_mem_lines hline
  refine ⟨?_, getLast?_unlines (by simp [lines]), ?_, lex_comments hlines⟩
  · intro hreturn
    obtain hfeed | ⟨line, hline, hmem⟩ := eq_feed_or_mem_of_mem_unlines hreturn
    · exact absurd hfeed (by decide)
    · exact absurd ((hlines line hline).unbroken _ hmem) (by decide)
  · rw [splitOn_document]
    intro line hline
    have hform : IsComment line := by
      simp only [List.mem_append, List.mem_map, List.mem_singleton] at hline
      obtain ⟨text, htext, rfl⟩ | rfl := hline
      · exact (hlines text htext).form
      · exact .inl rfl
    refine ⟨hform, ?_⟩
    obtain rfl | ⟨c, rest, rfl, -⟩ := hform
    · rfl
    · rfl

end KnxExport.Lua.Annotations
