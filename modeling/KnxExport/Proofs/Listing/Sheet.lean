import Mathlib.Algebra.BigOperators.Group.List.Basic
import Mathlib.Algebra.GroupWithZero.Nat
import Mathlib.Data.List.Forall2
import Mathlib.Order.Bounds.Basic
import KnxExport.Listing
import KnxExport.Proofs.Text.Lines

/-!
# What a table shows

A table is drawn line by line, and a line is a rule or has one field for each column. A field shows
a line of a cell and is filled with spaces up to the width of its column. The width of a text is not
the number of its characters, and not the sum of their widths either, so a line is measured by its
fields: their texts, the spaces in them and the bars between them.

Main statement: `document_table`. Its parts are stated of any heads and rows of texts: how wide
columns are (`isWidest_columnWidth`), what the lines of one row show (`drawn_shownRow`), and that
all lines are equally wide (`width_of_mem_drawing`).
-/

namespace KnxExport.Listing

namespace Sheet

/-! ## Lines and fields -/

/-- A field of a line: a text and the spaces behind it that fill the column. -/
structure Field where
  text : List Char
  filling : Nat
  deriving DecidableEq, Repr

namespace Field

/-- The field as it is drawn, with a space on both sides. -/
def chars (field : Field) : List Char :=
  ' ' :: (field.text ++ List.replicate field.filling ' ' ++ [' '])

/-- The columns of the terminal that the field takes. -/
def width (field : Field) : Nat :=
  1 + Text.width field.text + field.filling + 1

/-- The field shows the given line of a text, or nothing if the text has fewer lines, and fills a
column of the given width. -/
structure Shows (field : Field) (width : Nat) (text : String) (index : Nat) : Prop where
  text_eq : field.text = (text.toList.splitOn '\n').getD index []
  filled : Text.width field.text + field.filling = width

end Field

/-- A line of a table. -/
inductive Line where
  | rule (edge stroke crossing : Char) (widths : List Nat)
  | row (fields : List Field)
  deriving DecidableEq, Repr

namespace Line

/-- The line as it is drawn. -/
def chars : Line → List Char
  | rule edge stroke crossing widths => Sheet.rule edge stroke crossing widths
  | row fields => '|' :: (['|'].intercalate (fields.map Field.chars) ++ ['|'])

/-- The columns of the terminal that the line takes: its fields, and the bars around them. -/
def width : Line → Nat
  | rule edge stroke crossing widths => (Sheet.rule edge stroke crossing widths).length
  | row fields => fields.length + 1 + (fields.map Field.width).sum

end Line

/-- The lines of fields show a row of texts, one in each column of the given widths. There are as
many as the text with most lines has. -/
structure Drawn (widths : List Nat) (texts : List String) (lines : List (List Field)) : Prop where
  height : IsGreatest {n | ∃ text ∈ texts, n = 1 + text.toList.count '\n'} lines.length
  shows : ∀ index fields, lines[index]? = some fields →
    List.Forall₂ (fun (column : Nat × String) field => Field.Shows field column.1 column.2 index)
      (widths.zip texts) fields

/-- The number is the width of the widest line in a column of some rows. -/
def IsWidest (rows : List (List String)) (column width : Nat) : Prop :=
  IsGreatest {n | ∃ row ∈ rows, ∃ text, row[column]? = some text ∧
    ∃ line ∈ text.toList.splitOn '\n', n = Text.width line} width

/-- The lines of a table: the head and one block for each row, with rules around and between. -/
def drawing (widths : List Nat) (head : List (List Field)) (blocks : List (List (List Field))) :
    List Line :=
  [.rule '+' '-' '+' widths] ++ head.map .row ++ [.rule '+' '=' '=' widths] ++
    [.rule '|' '-' '+' widths].intercalate (blocks.map fun block => block.map .row) ++
    [.rule '+' '-' '+' widths]

/-! ## Pieces with separators -/

section Intercalate

variable {α β : Type}

/-- A separator stands in front of every piece but the first. -/
theorem intercalate_cons (sep : α) (piece : List α) (pieces : List (List α)) :
    [sep].intercalate (piece :: pieces) = piece ++ pieces.flatMap (sep :: ·) := by
  induction pieces generalizing piece with
  | nil => simp
  | cons next pieces ih =>
    rw [List.intercalate_cons_cons, ih, List.flatMap_cons, List.append_assoc]
    rfl

/-- What is between separators can be mapped apart from them. -/
theorem map_intercalate (f : α → β) (sep : α) (pieces : List (List α)) :
    ([sep].intercalate pieces).map f = [f sep].intercalate (pieces.map (List.map f)) := by
  cases pieces with
  | nil => rfl
  | cons piece pieces =>
    rw [List.map_cons, intercalate_cons, intercalate_cons, List.map_append, List.map_flatMap,
      List.flatMap_map]
    rfl

/-- There is nothing but the separator and what is in the pieces. -/
theorem eq_or_mem_of_mem_intercalate {sep a : α} {pieces : List (List α)}
    (h : a ∈ [sep].intercalate pieces) : a = sep ∨ ∃ piece ∈ pieces, a ∈ piece := by
  cases pieces with
  | nil => cases h
  | cons piece pieces =>
    rw [intercalate_cons, List.mem_append, List.mem_flatMap] at h
    obtain hfirst | ⟨next, hnext, hmem⟩ := h
    · exact .inr ⟨piece, List.mem_cons_self, hfirst⟩
    · obtain rfl | hmem := List.mem_cons.mp hmem
      · exact .inl rfl
      · exact .inr ⟨next, List.mem_cons_of_mem _ hnext, hmem⟩

/-- There is one separator less than there are pieces, if none of them has it. -/
theorem count_intercalate [DecidableEq α] {sep : α} {pieces : List (List α)}
    (h : ∀ piece ∈ pieces, sep ∉ piece) :
    ([sep].intercalate pieces).count sep = pieces.length - 1 := by
  cases pieces with
  | nil => rfl
  | cons piece pieces =>
    rw [List.forall_mem_cons] at h
    have hone : ∀ next ∈ pieces, (List.count sep ∘ (sep :: ·)) next = 1 := by
      intro next hnext
      show (sep :: next).count sep = 1
      rw [List.count_cons_self, List.count_eq_zero.mpr (h.2 next hnext)]
    rw [intercalate_cons, List.count_append, List.count_eq_zero.mpr h.1, List.count_flatMap,
      List.map_congr_left hone]
    simp

/-- The length of pieces with a separator between them. -/
theorem length_intercalate {sep : α} {pieces : List (List α)} (h : pieces ≠ []) :
    ([sep].intercalate pieces).length + 1 = (pieces.map List.length).sum + pieces.length := by
  obtain ⟨piece, pieces, rfl⟩ := List.exists_cons_of_ne_nil h
  rw [intercalate_cons, List.length_append, List.length_flatMap]
  simp only [List.length_cons, List.map_cons, List.sum_cons, List.sum_map_add, List.map_const',
    List.sum_replicate_nat]
  omega

end Intercalate

/-! ## Greatest numbers -/

/-- The maximum of some numbers is the greatest of them. -/
theorem isGreatest_foldr_max {numbers : List Nat} (h : numbers ≠ []) :
    IsGreatest {n | n ∈ numbers} (numbers.foldr max 0) := by
  induction numbers with
  | nil => exact absurd rfl h
  | cons n numbers ih =>
    rw [List.foldr_cons]
    by_cases hnil : numbers = []
    · subst hnil
      simp [IsGreatest, upperBounds]
    · obtain ⟨hmem, hle⟩ := ih hnil
      constructor
      · show max n _ ∈ n :: numbers
        rw [List.mem_cons]
        obtain hle | hle := Nat.le_total (numbers.foldr max 0) n
        · exact .inl (Nat.max_eq_left hle)
        · rw [Nat.max_eq_right hle]
          exact .inr hmem
      · intro m hm
        obtain rfl | hlater := List.mem_cons.mp hm
        · exact Nat.le_max_left _ _
        · exact le_trans (hle hlater) (Nat.le_max_right _ _)

/-- The width of a cell is that of its widest line. -/
theorem isGreatest_cellWidth (text : String) :
    IsGreatest {n | ∃ line ∈ text.toList.splitOn '\n', n = Text.width line}
      (cellWidth (cellOfText text)) := by
  have hne : (cellOfText text).map Text.width ≠ [] := by
    rw [Ne, List.map_eq_nil_iff]
    exact List.splitOn_ne_nil _ _
  have hset : {n | ∃ line ∈ text.toList.splitOn '\n', n = Text.width line} =
      {n | n ∈ (cellOfText text).map Text.width} := by
    ext n
    simp [cellOfText, eq_comm]
  rw [hset]
  exact isGreatest_foldr_max hne

section Columns

variable {rows : List (List String)} {column count : Nat}

/-- The width of a column is that of the widest line in it. -/
theorem isWidest_columnWidth (hne : rows ≠ []) (hrows : ∀ row ∈ rows, column < row.length) :
    IsWidest rows column (columnWidth (rows.map fun row => row.map cellOfText) column) := by
  have hcell : ∀ (row : List String) text, row[column]? = some text →
      cellWidth ((row.map cellOfText).getD column []) = cellWidth (cellOfText text) := by
    intro row text htext
    rw [List.getD_eq_getElem?_getD, List.getElem?_map, htext]
    rfl
  have hcells : rows.map (fun row => cellWidth ((row.map cellOfText).getD column [])) ≠ [] := by
    simpa using hne
  obtain ⟨hmem, hle⟩ := isGreatest_foldr_max hcells
  unfold columnWidth
  rw [List.map_map]
  constructor
  · obtain ⟨row, hrow, heq⟩ := List.mem_map.mp hmem
    obtain ⟨text, htext⟩ : ∃ text, row[column]? = some text :=
      ⟨_, List.getElem?_eq_getElem (hrows row hrow)⟩
    obtain ⟨⟨line, hline, hwidth⟩, -⟩ := isGreatest_cellWidth text
    refine ⟨row, hrow, text, htext, line, hline, ?_⟩
    rw [← hwidth, ← hcell row text htext, heq]
    rfl
  · rintro n ⟨row, hrow, text, htext, line, hline, rfl⟩
    have hline := (isGreatest_cellWidth text).2 ⟨line, hline, rfl⟩
    exact le_trans hline (hle (List.mem_map.mpr ⟨row, hrow, hcell row text htext⟩))

end Columns

/-! ## The lines of a row -/

/-- The field of a line of a cell. -/
def fieldOf (width : Nat) (line : List Char) : Field :=
  ⟨line, width - Text.width line⟩

/-- The fields of a line of a row. -/
def fieldsOf (widths : List Nat) (texts : List String) (index : Nat) : List Field :=
  List.zipWith (fun width text => fieldOf width ((cellOfText text).getD index [])) widths texts

/-- The fields of the lines of a row. -/
def shownRow (widths : List Nat) (texts : List String) : List (List Field) :=
  (List.range (rowHeight (texts.map cellOfText))).map (fieldsOf widths texts)

section Row

variable {widths : List Nat} {texts : List String}

/-- The lines of a row are drawn field by field. -/
theorem map_chars_shownRow :
    (shownRow widths texts).map (fun fields => Line.chars (.row fields)) =
      rowLines widths (texts.map cellOfText) := by
  have hline : ∀ index, Line.chars (.row (fieldsOf widths texts index)) =
      rowLine widths (texts.map cellOfText) index := by
    intro index
    simp only [Line.chars, fieldsOf, rowLine, List.map_zipWith, List.zipWith_map_right]
    rfl
  unfold shownRow rowLines
  rw [List.map_map]
  simp only [Function.comp_def, hline]

/-- A row is as high as its highest cell. -/
theorem isGreatest_rowHeight (hne : texts ≠ []) :
    IsGreatest {n | ∃ text ∈ texts, n = 1 + text.toList.count '\n'}
      (rowHeight (texts.map cellOfText)) := by
  have hset : {n | ∃ text ∈ texts, n = 1 + text.toList.count '\n'} =
      {n | n ∈ (texts.map cellOfText).map List.length} := by
    ext n
    simp [cellOfText, Text.length_splitOn, eq_comm, Nat.add_comm]
  rw [hset]
  apply isGreatest_foldr_max
  simpa using hne

/-- The lines of a row show it, if every line of a text fits into its column. -/
theorem drawn_shownRow (hne : texts ≠ [])
    (hfit : ∀ width text, (width, text) ∈ widths.zip texts →
      ∀ line ∈ text.toList.splitOn '\n', Text.width line ≤ width) :
    Drawn widths texts (shownRow widths texts) where
  height := by
    rw [shownRow, List.length_map, List.length_range]
    exact isGreatest_rowHeight hne
  shows index fields h := by
    rw [shownRow, List.getElem?_map, Option.map_eq_some_iff] at h
    obtain ⟨_, hk, rfl⟩ := h
    obtain ⟨hlt, hk⟩ := List.getElem?_eq_some_iff.mp hk
    rw [List.getElem_range] at hk
    subst hk
    have hfields : fieldsOf widths texts index = (widths.zip texts).map fun column =>
        fieldOf column.1 ((cellOfText column.2).getD index []) := by
      rw [List.map_zip_eq_zipWith]
      rfl
    rw [hfields, List.forall₂_map_right_iff, List.forall₂_same]
    rintro ⟨width, text⟩ hcolumn
    refine ⟨rfl, Nat.add_sub_of_le ?_⟩
    show Text.width ((text.toList.splitOn '\n').getD index []) ≤ width
    rw [List.getD_eq_getElem?_getD]
    cases hline : (text.toList.splitOn '\n')[index]? with
    | none => exact Nat.zero_le _
    | some line => exact hfit width text hcolumn line (List.mem_of_getElem? hline)

/-! ## Widths of lines -/

/-- A rule is as wide as the columns, with the spaces in them and the lines around them. -/
theorem length_rule {edge stroke crossing : Char} (hne : widths ≠ []) :
    (rule edge stroke crossing widths).length = widths.sum + 3 * widths.length + 1 := by
  have hlength : ([crossing].intercalate (widths.map fun w => List.replicate (w + 2) stroke)).length +
      1 = widths.sum + 3 * widths.length := by
    rw [length_intercalate (by simpa using hne), List.map_map]
    simp only [Function.comp_def, List.length_replicate, List.sum_map_add, List.map_id',
      List.map_const', List.sum_replicate_nat, List.length_map]
    omega
  rw [rule, List.length_cons, List.length_append, List.length_singleton, ← hlength]

/-- A line of a row is as wide as a rule. -/
theorem width_of_mem_drawn {lines : List (List Field)} (h : Drawn widths texts lines)
    (hlength : widths.length = texts.length) {fields : List Field} (hmem : fields ∈ lines) :
    (Line.row fields).width = widths.sum + 3 * widths.length + 1 := by
  obtain ⟨index, hindex⟩ := List.mem_iff_getElem?.mp hmem
  have hsum : ∀ {columns : List (Nat × String)} {fields : List Field},
      List.Forall₂ (fun column field => Field.Shows field column.1 column.2 index) columns fields →
      (fields.map Field.width).sum = (columns.map Prod.fst).sum + 2 * fields.length := by
    intro columns fields hshows
    induction hshows with
    | nil => rfl
    | cons hfield _ ih =>
      have hwidth := hfield.filled
      simp only [List.map_cons, List.sum_cons, List.length_cons, ih, Field.width]
      omega
  have hshows := h.shows index fields hindex
  have hcount := hshows.length_eq
  rw [List.length_zip, ← hlength, Nat.min_self] at hcount
  rw [Line.width, hsum hshows, List.map_fst_zip (Nat.le_of_eq hlength), ← hcount]
  omega

end Row

/-! ## The drawing -/

section Drawing

variable {widths : List Nat} {heads : List String} {rows : List (List String)}
  {head : List (List Field)} {blocks : List (List (List Field))}

/-- A line of a table is a rule, or one of the head or of a block. -/
theorem of_mem_drawing {line : Line} (h : line ∈ drawing widths head blocks) :
    (∃ edge ∈ ['+', '|'], ∃ stroke ∈ ['-', '='], ∃ crossing ∈ ['+', '='],
      line = .rule edge stroke crossing widths) ∨
    ∃ block ∈ head :: blocks, ∃ fields ∈ block, line = .row fields := by
  simp only [drawing, List.mem_append, List.mem_singleton, List.mem_map, or_assoc] at h
  obtain rfl | ⟨fields, hfields, rfl⟩ | rfl | hblock | rfl := h
  · exact .inl ⟨'+', by simp, '-', by simp, '+', by simp, rfl⟩
  · exact .inr ⟨head, List.mem_cons_self, fields, hfields, rfl⟩
  · exact .inl ⟨'+', by simp, '=', by simp, '=', by simp, rfl⟩
  · obtain rfl | ⟨_, hdrawn, hline⟩ := eq_or_mem_of_mem_intercalate hblock
    · exact .inl ⟨'|', by simp, '-', by simp, '+', by simp, rfl⟩
    · obtain ⟨block, hmem, rfl⟩ := List.mem_map.mp hdrawn
      obtain ⟨fields, hfields, rfl⟩ := List.mem_map.mp hline
      exact .inr ⟨block, List.mem_cons_of_mem _ hmem, fields, hfields, rfl⟩
  · exact .inl ⟨'+', by simp, '-', by simp, '+', by simp, rfl⟩

/-- There is one rule less between rows than there are rows. -/
theorem count_drawing :
    (drawing widths head blocks).count (.rule '|' '-' '+' widths) = blocks.length - 1 := by
  have hrow : ∀ block : List (List Field),
      Line.rule '|' '-' '+' widths ∉ block.map Line.row := by
    intro block hmem
    obtain ⟨fields, -, heq⟩ := List.mem_map.mp hmem
    cases heq
  have hblocks : ([Line.rule '|' '-' '+' widths].intercalate
      (blocks.map fun block => block.map Line.row)).count (.rule '|' '-' '+' widths) =
        blocks.length - 1 := by
    rw [count_intercalate, List.length_map]
    rw [List.forall_mem_map]
    exact fun block _ => hrow block
  simp only [drawing, List.count_append, List.count_eq_zero.mpr (hrow head), hblocks]
  simp

/-- What is related to the elements of a list is related to one of them each. -/
theorem exists_of_forall₂ {α β : Type} {R : α → β → Prop} {as : List α} {bs : List β}
    (h : List.Forall₂ R as bs) {b : β} (hb : b ∈ bs) : ∃ a ∈ as, R a b := by
  induction h with
  | nil => cases hb
  | @cons a _ _ _ hfirst _ ih =>
    obtain rfl | hlater := List.mem_cons.mp hb
    · exact ⟨a, List.mem_cons_self, hfirst⟩
    · obtain ⟨a', hmem, hrel⟩ := ih hlater
      exact ⟨a', List.mem_cons_of_mem _ hmem, hrel⟩

/-- No line feed is drawn in a field. -/
theorem Field.Shows.not_feed {field : Field} {width index : Nat} {text : String}
    (h : field.Shows width text index) : '\n' ∉ field.chars := by
  have htext : '\n' ∉ field.text := by
    rw [h.text_eq, List.getD_eq_getElem?_getD]
    cases hline : (text.toList.splitOn '\n')[index]? with
    | none => exact List.not_mem_nil
    | some line =>
      intro hmem
      exact (Text.mem_and_ne_of_mem_splitOn (List.mem_of_getElem? hline) _ hmem).2 rfl
  simp [Field.chars, htext]

/-- No line feed is drawn in a line of a row. -/
theorem Drawn.not_feed {texts : List String} {lines : List (List Field)}
    (h : Drawn widths texts lines) {fields : List Field} (hmem : fields ∈ lines) :
    '\n' ∉ (Line.row fields).chars := by
  obtain ⟨index, hindex⟩ := List.mem_iff_getElem?.mp hmem
  have hfields : ∀ field ∈ fields, '\n' ∉ field.chars := by
    intro field hfield
    obtain ⟨column, -, hshows⟩ := exists_of_forall₂ (h.shows index fields hindex) hfield
    exact hshows.not_feed
  intro hfeed
  simp only [Line.chars, List.mem_cons, List.mem_append, List.not_mem_nil, or_false] at hfeed
  obtain hbar | hfeed | hbar := hfeed
  · exact absurd hbar (by decide)
  · obtain hbar | ⟨piece, hpiece, hin⟩ := eq_or_mem_of_mem_intercalate hfeed
    · exact absurd hbar (by decide)
    · obtain ⟨field, hfield, rfl⟩ := List.mem_map.mp hpiece
      exact hfields field hfield hin
  · exact absurd hbar (by decide)

/-- No line feed is drawn in a rule. -/
theorem not_feed_rule {edge stroke crossing : Char} (hedge : '\n' ≠ edge) (hstroke : '\n' ≠ stroke)
    (hcrossing : '\n' ≠ crossing) : '\n' ∉ rule edge stroke crossing widths := by
  intro hfeed
  simp only [rule, List.mem_cons, List.mem_append, List.not_mem_nil, or_false] at hfeed
  obtain hend | hfeed | hend := hfeed
  · exact hedge hend
  · obtain hcross | ⟨piece, hpiece, hin⟩ := eq_or_mem_of_mem_intercalate hfeed
    · exact hcrossing hcross
    · obtain ⟨w, -, rfl⟩ := List.mem_map.mp hpiece
      exact hstroke (List.eq_of_mem_replicate hin)
  · exact hedge hend

variable {count : Nat} (hhead : Drawn widths heads head)
  (hblocks : List.Forall₂ (fun row block => Drawn widths row block) rows blocks)
include hhead hblocks

/-- The head and every block show a row. -/
theorem exists_drawn {block : List (List Field)} (h : block ∈ head :: blocks) :
    ∃ texts ∈ heads :: rows, Drawn widths texts block := by
  obtain rfl | hmem := List.mem_cons.mp h
  · exact ⟨heads, List.mem_cons_self, hhead⟩
  · obtain ⟨row, hrow, hdrawn⟩ := exists_of_forall₂ hblocks hmem
    exact ⟨row, List.mem_cons_of_mem _ hrow, hdrawn⟩

/-- All lines of a table are equally wide. -/
theorem width_of_mem_drawing (hne : widths ≠ [])
    (hlength : ∀ row ∈ heads :: rows, widths.length = row.length) {line : Line}
    (h : line ∈ drawing widths head blocks) :
    line.width = widths.sum + 3 * widths.length + 1 := by
  obtain ⟨edge, -, stroke, -, crossing, -, rfl⟩ | ⟨block, hblock, fields, hfields, rfl⟩ :=
    of_mem_drawing h
  · exact length_rule hne
  · obtain ⟨texts, htexts, hdrawn⟩ := exists_drawn hhead hblocks hblock
    exact width_of_mem_drawn hdrawn (hlength texts htexts) hfields

/-- No line of a table holds a line feed. -/
theorem not_feed_of_mem_drawing {line : Line} (h : line ∈ drawing widths head blocks) :
    '\n' ∉ line.chars := by
  obtain ⟨edge, hedge, stroke, hstroke, crossing, hcrossing, rfl⟩ |
    ⟨block, hblock, fields, hfields, rfl⟩ := of_mem_drawing h
  · have hsigns : '\n' ∉ ['+', '|'] ∧ '\n' ∉ ['-', '='] ∧ '\n' ∉ ['+', '='] := by decide
    apply not_feed_rule
    · exact (ne_of_mem_of_not_mem hedge hsigns.1).symm
    · exact (ne_of_mem_of_not_mem hstroke hsigns.2.1).symm
    · exact (ne_of_mem_of_not_mem hcrossing hsigns.2.2).symm
  · obtain ⟨texts, -, hdrawn⟩ := exists_drawn hhead hblocks hblock
    exact hdrawn.not_feed hfields

end Drawing

/-! ## The table of some rows -/

section Table

variable {heads : List String} {rows : List (List String)}

/-- The widths of the columns of a table. -/
def widthsOf (heads : List String) (rows : List (List String)) : List Nat :=
  columnWidths heads.length ((heads :: rows).map fun row => row.map cellOfText)

/-- There is a width for each column. -/
theorem length_widthsOf : (widthsOf heads rows).length = heads.length := by
  rw [widthsOf, columnWidths, List.length_map, List.length_range]

/-- Every column is as wide as the widest line in it. -/
theorem isWidest_of_widthsOf (hrows : ∀ row ∈ heads :: rows, row.length = heads.length)
    {column width : Nat} (h : (widthsOf heads rows)[column]? = some width) :
    IsWidest (heads :: rows) column width := by
  rw [widthsOf, columnWidths, List.getElem?_map, Option.map_eq_some_iff] at h
  obtain ⟨k, hk, rfl⟩ := h
  obtain ⟨hlt, rfl⟩ := List.getElem?_eq_some_iff.mp hk
  rw [List.length_range] at hlt
  rw [List.getElem_range]
  apply isWidest_columnWidth (List.cons_ne_nil _ _)
  intro row hrow
  rw [hrows row hrow]
  exact hlt

/-- Every row is shown by the lines that are drawn for it. -/
theorem drawn_of_mem (hne : heads ≠ [])
    (hrows : ∀ row ∈ heads :: rows, row.length = heads.length) {row : List String}
    (h : row ∈ heads :: rows) :
    Drawn (widthsOf heads rows) row (shownRow (widthsOf heads rows) row) := by
  have hrow : row ≠ [] := by
    rintro rfl
    exact hne (List.length_eq_zero_iff.mp (hrows [] h).symm)
  apply drawn_shownRow hrow
  intro width text hcolumn line hline
  obtain ⟨column, hcolumn⟩ := List.mem_iff_getElem?.mp hcolumn
  obtain ⟨hwidth, htext⟩ := List.getElem?_zip_eq_some.mp hcolumn
  exact (isWidest_of_widthsOf hrows hwidth).2 ⟨row, h, text, htext, line, hline, rfl⟩

/-- The lines of a table are drawn one after the other. -/
theorem map_chars_drawing :
    (drawing (widthsOf heads rows) (shownRow (widthsOf heads rows) heads)
      (rows.map (shownRow (widthsOf heads rows)))).map Line.chars =
    lines (heads.map cellOfText) (rows.map fun row => row.map cellOfText) := by
  have hwidths : columnWidths (heads.map cellOfText).length
      (heads.map cellOfText :: rows.map fun row => row.map cellOfText) = widthsOf heads rows := by
    rw [List.length_map]
    rfl
  unfold lines drawing
  rw [hwidths]
  simp only [List.map_append, map_intercalate, List.map_map, List.map_cons, List.map_nil,
    Function.comp_def, map_chars_shownRow]
  rfl

end Table

end Sheet

/-- A listing as a table is the table. -/
theorem document_table_eq_sheet (records : List GroupAddress) :
    document .table records = sheet records := by
  have hadding : records.flatMap (adding .table) = [] :=
    List.flatMap_eq_nil_iff.mpr fun _ _ => rfl
  rw [document, pieces, hadding]
  simp [textOf, opening, closing, Piece.text]

/-- The table of records is what is drawn of them. -/
theorem sheet_eq_unlines (records : List GroupAddress) :
    sheet records = Text.unlines ((Sheet.drawing (Sheet.widthsOf headers (records.map cells))
      (Sheet.shownRow (Sheet.widthsOf headers (records.map cells)) headers)
      ((records.map cells).map (Sheet.shownRow (Sheet.widthsOf headers (records.map cells))))).map
        fun line => String.ofList line.chars) := by
  have hcells : (records.map fun g => (cells g).map Sheet.cellOfText) =
      (records.map cells).map fun row => row.map Sheet.cellOfText := by
    rw [List.map_map]
    rfl
  rw [sheet, hcells, ← Sheet.map_chars_drawing]
  exact congrArg Text.unlines List.map_map

/-- **What a table shows.** It is written as a whole after all records, and cut at its line feeds it
gives the lines of a drawing with one column for each head. A column is as wide as the widest line
of its head and its cells. The head, and then each record in its turn, takes as many lines as its
cell with most lines has, and in each of them every column shows its line of the cell, filled with
spaces to the width of the column, or nothing but spaces if the cell has fewer lines. There is one
rule less between the records than there are records. And all lines are equally wide: as wide as the
columns together, two spaces in each of them, and the six bars around them. -/
theorem document_table (records : List GroupAddress) :
    ∃ widths head blocks,
      widths.length = 5 ∧
      (∀ column width, widths[column]? = some width →
        Sheet.IsWidest (headers :: records.map cells) column width) ∧
      Sheet.Drawn widths headers head ∧
      List.Forall₂ (fun g block => Sheet.Drawn widths (cells g) block) records blocks ∧
      (document .table records).toList.splitOn '\n' =
        (Sheet.drawing widths head blocks).map Sheet.Line.chars ++ [[]] ∧
      (∀ line ∈ Sheet.drawing widths head blocks, line.width = 16 + widths.sum) ∧
      (Sheet.drawing widths head blocks).count (.rule '|' '-' '+' widths) = records.length - 1 ∧
      opening .table = [] ∧ (∀ g, adding .table g = []) ∧
      closing .table records = [.plain (document .table records)] := by
  have hrows : ∀ row ∈ headers :: records.map cells, row.length = headers.length := by
    rw [List.forall_mem_cons, List.forall_mem_map]
    exact ⟨rfl, fun g _ => rfl⟩
  have hne : headers ≠ [] := List.cons_ne_nil _ _
  obtain ⟨widths, hwidths⟩ : ∃ widths, Sheet.widthsOf headers (records.map cells) = widths :=
    ⟨_, rfl⟩
  have hlength : widths.length = 5 := by
    rw [← hwidths, Sheet.length_widthsOf]
    rfl
  have hdrawn : ∀ row ∈ headers :: records.map cells,
      Sheet.Drawn widths row (Sheet.shownRow widths row) := by
    rw [← hwidths]
    exact fun row hrow => Sheet.drawn_of_mem hne hrows hrow
  have hhead := hdrawn headers List.mem_cons_self
  have hblocks : List.Forall₂ (fun row block => Sheet.Drawn widths row block) (records.map cells)
      ((records.map cells).map (Sheet.shownRow widths)) := by
    rw [List.forall₂_map_right_iff, List.forall₂_same]
    intro row hrow
    exact hdrawn row (List.mem_cons_of_mem _ hrow)
  have hdocument := document_table_eq_sheet records
  refine ⟨widths, Sheet.shownRow widths headers, (records.map cells).map (Sheet.shownRow widths),
    hlength, ?_, hhead, List.forall₂_map_left_iff.mp hblocks, ?_, ?_, ?_, rfl, fun _ => rfl, ?_⟩
  · intro column width hcolumn
    subst hwidths
    exact Sheet.isWidest_of_widthsOf hrows hcolumn
  · rw [hdocument, sheet_eq_unlines, hwidths, Text.splitOn_unlines, List.map_map]
    · simp only [Function.comp_def, String.toList_ofList]
    · rw [List.forall_mem_map]
      intro line hline
      rw [String.toList_ofList]
      exact Sheet.not_feed_of_mem_drawing hhead hblocks hline
  · intro line hline
    have hcolumns : ∀ row ∈ headers :: records.map cells, widths.length = row.length := by
      intro row hrow
      rw [hlength, hrows row hrow]
      rfl
    have hsome : widths ≠ [] := by
      rintro rfl
      cases hlength
    rw [Sheet.width_of_mem_drawing hhead hblocks hsome hcolumns hline, hlength]
    omega
  · rw [Sheet.count_drawing, List.length_map, List.length_map]
  · rw [hdocument]
    rfl

end KnxExport.Listing
