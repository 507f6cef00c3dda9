import KnxExport.Proofs.Csv.Table

/-!
# All ways to write a table

A table can be written in many ways. A cell stands raw, or in quotes with some text after them. The
rows are ended by any breaks, among which empty lines do not count, and the end of the text may
stand for the breaks after the last row and for the quote that closes its last cell. `Written` is
the relation between a table and the texts that write it, said without the automaton.

Main statement: `table_of_written`, the automaton reads every way of writing a table as that table.
The induction goes over the cells of a row and over the rows; a cell is read from the place before
its first byte, and what is known of the text after it is how it is read outside of quotes.
-/

namespace KnxExport.Csv

/-! ## The relation -/

/-- A byte that stands for itself outside of quotes, where it does not come first. -/
def IsPlain (b : UInt8) : Prop :=
  b ≠ comma ∧ isBreak b = false

instance : DecidablePred IsPlain :=
  fun b => inferInstanceAs (Decidable (b ≠ comma ∧ isBreak b = false))

/-- How the content of quotes is written: with its quotes doubled. -/
def doubled (content : List UInt8) : List UInt8 :=
  content.flatMap fun b => if b = quote then [quote, quote] else [b]

/-- The ways to write a cell. -/
inductive WrittenCell : Cell → List UInt8 → Prop where
  /-- As it is, if it is plain and no quote comes first. -/
  | raw {cell : Cell} (hquote : cell.head? ≠ some quote) (hplain : ∀ b ∈ cell, IsPlain b) :
      WrittenCell cell cell
  /-- A part of it in quotes, and a plain tail after them. -/
  | quoted {content tail : List UInt8} (hquote : tail.head? ≠ some quote)
      (hplain : ∀ b ∈ tail, IsPlain b) :
      WrittenCell (content ++ tail) (quote :: (doubled content ++ quote :: tail))

/-- The ways to write the cell at the end of the text: its quotes need not be closed. -/
inductive WrittenLast : Cell → List UInt8 → Prop where
  | closed {cell : Cell} {text : List UInt8} (h : WrittenCell cell text) : WrittenLast cell text
  | unclosed (content : List UInt8) : WrittenLast content (quote :: doubled content)

/-- The ways to write a row: its cells separated by commas, the last one in a way of its own. -/
inductive WrittenRow (Last : Cell → List UInt8 → Prop) : List Cell → List UInt8 → Prop where
  | last {cell : Cell} {text : List UInt8} (h : Last cell text) : WrittenRow Last [cell] text
  | cons {cell : Cell} {cells : List Cell} {text rest : List UInt8} (h : WrittenCell cell text)
      (hrest : WrittenRow Last cells rest) :
      WrittenRow Last (cell :: cells) (text ++ comma :: rest)

/-- The ways to write rows. A row that is written as nothing, which is one empty cell written raw,
would be an empty line, so it is excluded. -/
inductive WrittenRows : List (List Cell) → List UInt8 → Prop where
  | nil : WrittenRows [] []
  /-- A row with the breaks after it. -/
  | cons {cells : List Cell} {rows : List (List Cell)} {text breaks rest : List UInt8}
      (h : WrittenRow WrittenCell cells text) (htext : text ≠ []) (hne : breaks ≠ [])
      (hbreaks : ∀ b ∈ breaks, isBreak b = true) (hrest : WrittenRows rows rest) :
      WrittenRows (cells :: rows) (text ++ (breaks ++ rest))
  /-- The last row, without breaks after it. -/
  | last {cells : List Cell} {text : List UInt8} (h : WrittenRow WrittenLast cells text)
      (htext : text ≠ []) : WrittenRows [cells] text

/-- The ways to write a table: its rows, after any breaks. -/
inductive Written : List (List Cell) → List UInt8 → Prop where
  | mk {rows : List (List Cell)} {breaks text : List UInt8}
      (hbreaks : ∀ b ∈ breaks, isBreak b = true) (h : WrittenRows rows text) :
      Written rows (breaks ++ text)

/-! ## Reading cells -/

section Cells

variable {cell first : Cell} {cells more : List Cell} {rows : List (List Cell)}
  {text rest : List UInt8}

/-- Plain bytes belong to the cell in which they stand. -/
theorem table_plain {bytes : List UInt8} (h : ∀ b ∈ bytes, IsPlain b)
    (hrest : table .plain rest = (first :: more) :: rows) :
    table .plain (bytes ++ rest) = ((bytes ++ first) :: more) :: rows := by
  induction bytes with
  | nil => exact hrest
  | cons b bytes ih =>
    obtain ⟨hcomma, hbreak⟩ := h b List.mem_cons_self
    have hstep : step .plain b = (.plain, .keep b) := by simp [step, stepPlain, hcomma, hbreak]
    rw [List.cons_append, table, hstep, ih fun d hd => h d (List.mem_cons_of_mem b hd)]
    rfl

/-- Before a byte that is no quote, the start of a cell and the end of quotes are like any place in
a cell outside of quotes. -/
theorem table_eq_plain {place : Place} (hplace : place = .cellStart ∨ place = .closing)
    (hrest : rest.head? ≠ some quote) : table place rest = table .plain rest := by
  cases rest with
  | nil => rcases hplace with rfl | rfl <;> rfl
  | cons b rest =>
    have hb : b ≠ quote := by simpa using hrest
    have hstep : step place b = step .plain b := by
      rcases hplace with rfl | rfl
      · simp [step, stepStart, hb]
      · simp [step, hb]
    rw [table, table, hstep]

/-- Inside quotes the content is read back, its doubled quotes as single ones. -/
theorem table_doubled (content : List UInt8)
    (hrest : table .quoted rest = (first :: more) :: rows) :
    table .quoted (doubled content ++ rest) = ((content ++ first) :: more) :: rows := by
  induction content with
  | nil => exact hrest
  | cons b content ih =>
    rw [doubled, List.flatMap_cons, List.append_assoc, ← doubled]
    by_cases hb : b = quote
    · subst hb
      rw [if_pos rfl, List.cons_append, List.cons_append, List.nil_append, table, table]
      simp only [step, if_true]
      rw [ih]
      rfl
    · rw [if_neg hb, List.cons_append, List.nil_append, table]
      simp only [step, hb, if_false]
      rw [ih]
      rfl

/-- A written cell is read as that cell, and what stands after it as the rest of the row. -/
theorem table_of_writtenCell (h : WrittenCell cell text) (hquote : rest.head? ≠ some quote)
    (hrest : table .plain rest = (first :: more) :: rows) :
    table .cellStart (text ++ rest) = ((cell ++ first) :: more) :: rows := by
  cases h with
  | raw hhead hplain =>
    have hstart : (cell ++ rest).head? ≠ some quote := by
      cases cell with
      | nil => exact hquote
      | cons b cell => exact hhead
    rw [table_eq_plain (.inl rfl) hstart, table_plain hplain hrest]
  | @quoted content tail hhead hplain =>
    have hclosing : (tail ++ rest).head? ≠ some quote := by
      cases tail with
      | nil => exact hquote
      | cons b tail => exact hhead
    have htail : table .closing (tail ++ rest) = ((tail ++ first) :: more) :: rows := by
      rw [table_eq_plain (.inr rfl) hclosing, table_plain hplain hrest]
    have hcontent : table .quoted (doubled content ++ quote :: (tail ++ rest)) =
        ((content ++ (tail ++ first)) :: more) :: rows := table_doubled content htail
    rw [List.append_assoc, ← hcontent, List.cons_append, List.append_assoc, List.cons_append]
    rfl

end Cells

/-! ## Reading rows -/

section Rows

variable {cells : List Cell} {rows : List (List Cell)} {text rest : List UInt8}

/-- A written row is read as that row, if its last cell is read as the end of it. -/
theorem table_of_writtenRow {Last : Cell → List UInt8 → Prop} (h : WrittenRow Last cells text)
    (hlast : ∀ cell text, Last cell text → table .cellStart (text ++ rest) = [cell] :: rows) :
    table .cellStart (text ++ rest) = cells :: rows := by
  induction h with
  | last hcell => exact hlast _ _ hcell
  | @cons cell cells text after hcell _ ih =>
    have hcomma : table .plain (comma :: (after ++ rest)) = ([] :: cells) :: rows := by
      rw [table]
      simp only [step, stepPlain, if_true]
      rw [ih]
      rfl
    have hquote : (comma :: (after ++ rest)).head? ≠ some quote := by
      rw [List.head?_cons]
      decide
    have hread := table_of_writtenCell hcell hquote hcomma
    rw [List.append_nil] at hread
    rw [List.append_assoc, List.cons_append, hread]

/-- No way of writing a cell starts with a break. -/
theorem not_isBreak_of_writtenCell {cell : Cell} (h : WrittenCell cell text) :
    ∀ b ∈ text.head?, isBreak b = false := by
  cases h with
  | raw _ hplain =>
    intro b hb
    exact (hplain b (List.mem_of_mem_head? hb)).2
  | quoted =>
    intro b hb
    cases hb
    rfl

/-- No way of writing a row starts with a break. -/
theorem not_isBreak_of_writtenRow {Last : Cell → List UInt8 → Prop} (h : WrittenRow Last cells text)
    (hlast : ∀ cell text, Last cell text → ∀ b ∈ text.head?, isBreak b = false) :
    ∀ b ∈ text.head?, isBreak b = false := by
  cases h with
  | last hcell => exact hlast _ _ hcell
  | @cons cell cells text after hcell =>
    have hhead := not_isBreak_of_writtenCell hcell
    cases text with
    | nil =>
      intro b hb
      cases hb
      rfl
    | cons b text => exact hhead

/-- A row starts where a cell could start. -/
theorem table_between (htext : text ≠ []) (hhead : ∀ b ∈ text.head?, isBreak b = false) :
    table .between (text ++ rest) = table .cellStart (text ++ rest) := by
  cases text with
  | nil => exact absurd rfl htext
  | cons b text =>
    have hb : isBreak b = false := hhead b rfl
    have hstep : step .between b = step .cellStart b := by simp [step, hb]
    rw [List.cons_append, table, table, hstep]

/-- Breaks between records mean nothing. -/
theorem table_breaks {breaks : List UInt8} (h : ∀ b ∈ breaks, isBreak b = true) :
    table .between (breaks ++ rest) = table .between rest := by
  induction breaks with
  | nil => rfl
  | cons b breaks ih =>
    have hstep : step .between b = (.between, .nothing) := by
      simp [step, h b List.mem_cons_self]
    rw [List.cons_append, table, hstep, ih fun d hd => h d (List.mem_cons_of_mem b hd), Mark.before]

/-- Breaks in a record end it. -/
theorem table_plain_breaks {breaks : List UInt8} (hne : breaks ≠ [])
    (h : ∀ b ∈ breaks, isBreak b = true) :
    table .plain (breaks ++ rest) = [[]] :: table .between rest := by
  cases breaks with
  | nil => exact absurd rfl hne
  | cons b breaks =>
    have hb := h b List.mem_cons_self
    have hcomma : b ≠ comma := by
      rintro rfl
      cases hb
    have hstep : step .plain b = (.between, .recordEnd) := by simp [step, stepPlain, hcomma, hb]
    rw [List.cons_append, table, hstep, table_breaks fun d hd => h d (List.mem_cons_of_mem b hd),
      Mark.before]

/-- Written rows are read as these rows. -/
theorem table_of_writtenRows (h : WrittenRows rows text) : table .between text = rows := by
  induction h with
  | nil => rfl
  | @cons cells rows text breaks rest hrow htext hne hbreaks _ ih =>
    have hend : table .plain (breaks ++ rest) = [[]] :: rows := by
      rw [table_plain_breaks hne hbreaks, ih]
    have hquote : (breaks ++ rest).head? ≠ some quote := by
      cases breaks with
      | nil => exact absurd rfl hne
      | cons b breaks =>
        rintro hb
        cases hb
        exact absurd (hbreaks quote List.mem_cons_self) (by decide)
    rw [table_between htext (not_isBreak_of_writtenRow hrow fun _ _ => not_isBreak_of_writtenCell)]
    refine table_of_writtenRow hrow fun cell text hcell => ?_
    rw [table_of_writtenCell hcell hquote hend, List.append_nil]
  | @last cells text hrow htext =>
    have hhead : ∀ cell text, WrittenLast cell text → ∀ b ∈ text.head?, isBreak b = false := by
      rintro cell text (hcell | content)
      · exact not_isBreak_of_writtenCell hcell
      · intro b hb
        cases hb
        rfl
    have hread : table .cellStart (text ++ []) = [cells] := by
      refine table_of_writtenRow hrow fun cell text hcell => ?_
      cases hcell with
      | closed hcell =>
        rw [table_of_writtenCell hcell (by simp) (rfl : table .plain [] = [[[]]]), List.append_nil]
      | unclosed =>
        have hcontent := table_doubled cell (rfl : table .quoted [] = [[[]]])
        rw [List.append_nil, List.append_nil] at hcontent
        rw [List.append_nil]
        exact hcontent
    rw [← List.append_nil text, table_between htext (not_isBreak_of_writtenRow hrow hhead), hread]

/-- **Every way of writing a table is read as that table.** -/
theorem table_of_written (h : Written rows text) : table .between text = rows := by
  cases h with
  | mk hbreaks hrows => rw [table_breaks hbreaks, table_of_writtenRows hrows]

end Rows

end KnxExport.Csv
