import Mathlib.Tactic.SplitIfs
import KnxExport.Csv.Reader

/-!
# The table that a text holds

`table` reads records without any scratch space: the automaton runs over the bytes, and every mark
is put before the records that the rest of the text gives. It is the view in which laws about
reading are proved, since it has neither sizes nor a record that is half read.

A draft in scratch space holds the complete cells of a record and the bytes of an open one
(`Draft.Holds`), and `resume` puts the two before the records that are still to come.

Main statement: `records_eq_map_ofCells`, the records read into scratch space are those of the
table, whatever sizes the space has to begin with.
-/

namespace KnxExport.Csv

/-! ## Reading without scratch space -/

/-- The records that a mark makes with the records after it. A byte and the end of a cell belong to
the first record, the end of a record opens one that is empty so far. -/
def Mark.before : Mark → List (List Cell) → List (List Cell)
  | .nothing, rows => rows
  | .keep b, (cell :: cells) :: rows => ((b :: cell) :: cells) :: rows
  | .cellEnd, cells :: rows => ([] :: cells) :: rows
  | .recordEnd, rows => [[]] :: rows
  | _, rows => rows

/-- The records of a text that is read from a place on. -/
def table : Place → List UInt8 → List (List Cell)
  | place, [] => (finish place).before []
  | place, b :: input => (step place b).2.before (table (step place b).1 input)

/-- The place after a text. -/
def placeAfter : Place → List UInt8 → Place
  | place, [] => place
  | place, b :: input => placeAfter (step place b).1 input

/-- What one byte can do: leave no mark, be kept in a cell, end a cell or end a record. The
automaton stands between records after the last of these only, or if it stood there before. -/
theorem step_cases (place : Place) (b : UInt8) :
    ((step place b).2 = .nothing ∧ ((step place b).1 = .between → place = .between)) ∨
    ((step place b).2 = .keep b ∧ (step place b).1 ≠ .between) ∨
    ((step place b).2 = .cellEnd ∧ (step place b).1 = .cellStart) ∨
    ((step place b).2 = .recordEnd ∧ (step place b).1 = .between) := by
  cases place <;> simp only [step, stepStart, stepPlain] <;> split_ifs <;> simp

/-- The end of the input ends a record or leaves no mark. -/
theorem finish_eq_nothing {place : Place} (h : finish place ≠ .recordEnd) :
    finish place = .nothing := by
  cases place with
  | between => rfl
  | _ => exact absurd rfl h

/-- Outside of quotes a break leads between records. -/
theorem step_break {place : Place} {b : UInt8} (hplace : place ≠ .quoted)
    (hb : isBreak b = true) : (step place b).1 = .between := by
  have hcomma : b ≠ comma := by
    rintro rfl
    cases hb
  have hquote : b ≠ quote := by
    rintro rfl
    cases hb
  cases place with
  | between => simp [step, hb]
  | cellStart => simp [step, stepStart, stepPlain, hcomma, hquote, hb]
  | plain => simp [step, stepPlain, hcomma, hb]
  | quoted => exact absurd rfl hplace
  | closing => simp [step, stepPlain, hcomma, hquote, hb]

/-- Within a record the rest of the text gives at least the rest of that record. -/
theorem exists_table_eq_cons {place : Place} (h : place ≠ .between) (input : List UInt8) :
    ∃ cell cells rows, table place input = (cell :: cells) :: rows := by
  induction input generalizing place with
  | nil =>
    refine ⟨[], [], [], ?_⟩
    cases place <;> first | rfl | exact absurd rfl h
  | cons b input ih =>
    rw [table]
    obtain ⟨hmark, hplace⟩ | ⟨hmark, hplace⟩ | ⟨hmark, hplace⟩ | ⟨hmark, -⟩ := step_cases place b
    · rw [hmark]
      exact ih fun hbetween => h (hplace hbetween)
    · obtain ⟨cell, cells, rows, heq⟩ := ih hplace
      exact ⟨b :: cell, cells, rows, by rw [hmark, heq, Mark.before]⟩
    · have hne : (step place b).1 ≠ .between := by simp [hplace]
      obtain ⟨cell, cells, rows, heq⟩ := ih hne
      exact ⟨[], cell :: cells, rows, by rw [hmark, heq, Mark.before]⟩
    · exact ⟨[], [], _, by rw [hmark, Mark.before]⟩

/-- A byte that is kept belongs to a record. -/
theorem ne_between_of_step_keep {place place' : Place} {b c : UInt8}
    (h : step place b = (place', .keep c)) : place' ≠ .between := by
  have hcases := step_cases place b
  rw [h] at hcases
  have hkept : c = b ∧ place' ≠ .between := by simpa using hcases
  exact hkept.2

/-- After the end of a cell the record goes on. -/
theorem ne_between_of_step_cellEnd {place place' : Place} {b : UInt8}
    (h : step place b = (place', .cellEnd)) : place' ≠ .between := by
  have hcases := step_cases place b
  rw [h] at hcases
  have hstart : place' = .cellStart := by simpa using hcases
  simp [hstart]

/-- The end of a record leads between records. -/
theorem eq_between_of_step_recordEnd {place place' : Place} {b : UInt8}
    (h : step place b = (place', .recordEnd)) : place' = .between := by
  have hcases := step_cases place b
  rw [h] at hcases
  simpa using hcases

/-- What a byte makes of the records of the text behind it, by the mark that it leaves. -/
theorem table_cons_cases (place : Place) (b : UInt8) (input : List UInt8) :
    ((step place b).2 = .nothing ∧
      table place (b :: input) = table (step place b).1 input) ∨
    (∃ cell cells rows, (step place b).2 = .keep b ∧
      table (step place b).1 input = (cell :: cells) :: rows ∧
      table place (b :: input) = ((b :: cell) :: cells) :: rows) ∨
    (∃ cell cells rows, (step place b).2 = .cellEnd ∧
      table (step place b).1 input = (cell :: cells) :: rows ∧
      table place (b :: input) = ([] :: cell :: cells) :: rows) ∨
    ((step place b).2 = .recordEnd ∧
      table place (b :: input) = [[]] :: table (step place b).1 input) := by
  rw [table]
  rcases step_cases place b with ⟨hmark, -⟩ | ⟨hmark, hplace⟩ | ⟨hmark, hplace⟩ | ⟨hmark, -⟩
  · exact .inl ⟨hmark, by rw [hmark, Mark.before]⟩
  · obtain ⟨cell, cells, rows, htable⟩ := exists_table_eq_cons hplace input
    exact .inr (.inl ⟨cell, cells, rows, hmark, htable, by rw [hmark, htable, Mark.before]⟩)
  · have hne : (step place b).1 ≠ .between := by simp [hplace]
    obtain ⟨cell, cells, rows, htable⟩ := exists_table_eq_cons hne input
    exact .inr (.inr (.inl ⟨cell, cells, rows, hmark, htable, by rw [hmark, htable, Mark.before]⟩))
  · exact .inr (.inr (.inr ⟨hmark, by rw [hmark, Mark.before]⟩))

/-- A mark reaches no further than into the first record. -/
theorem before_append (place : Place) (b : UInt8) (front : List UInt8)
    (rows : List (List Cell)) :
    (step place b).2.before (table (step place b).1 front ++ rows) =
      (step place b).2.before (table (step place b).1 front) ++ rows := by
  obtain ⟨hmark, -⟩ | ⟨hmark, hplace⟩ | ⟨hmark, hplace⟩ | ⟨hmark, -⟩ := step_cases place b
  · rw [hmark, Mark.before, Mark.before]
  · obtain ⟨cell, cells, more, heq⟩ := exists_table_eq_cons hplace front
    rw [hmark, heq]
    rfl
  · have hne : (step place b).1 ≠ .between := by simp [hplace]
    obtain ⟨cell, cells, more, heq⟩ := exists_table_eq_cons hne front
    rw [hmark, heq]
    rfl
  · rw [hmark, Mark.before, Mark.before]
    rfl

/-- **Records do not reach over a place between records.** What stands before it and what stands
after it are read on their own. -/
theorem table_append {place : Place} {front : List UInt8} (h : placeAfter place front = .between)
    (input : List UInt8) :
    table place (front ++ input) = table place front ++ table .between input := by
  induction front generalizing place with
  | nil =>
    rw [placeAfter] at h
    rw [h]
    rfl
  | cons b front ih =>
    rw [placeAfter] at h
    rw [List.cons_append, table, table, ih h, before_append]

/-- The place after two texts is the place after the second one, read from where the first one
leads. -/
theorem placeAfter_append (place : Place) (front input : List UInt8) :
    placeAfter place (front ++ input) = placeAfter (placeAfter place front) input := by
  induction front generalizing place with
  | nil => rfl
  | cons b front ih => exact ih (step place b).1

/-! ## What a draft holds -/

/-- The ends of cells of which the first starts at `start`. -/
def endsFrom (start : Nat) : List Cell → List Nat
  | [] => []
  | cell :: cells => (start + cell.length) :: endsFrom (start + cell.length) cells

/-- The ends of more cells start where the last cell has ended. -/
theorem endsFrom_append (start : Nat) (cells more : List Cell) :
    endsFrom start (cells ++ more) =
      endsFrom start cells ++ endsFrom (start + cells.flatten.length) more := by
  induction cells generalizing start with
  | nil => simp [endsFrom]
  | cons cell cells ih =>
    rw [List.cons_append, endsFrom, endsFrom, ih, List.flatten_cons, List.length_append,
      Nat.add_assoc, List.cons_append]

/-- Bytes that are cut at the ends of cells are these cells. -/
theorem cut_endsFrom (start : Nat) (cells : List Cell) (rest : List UInt8) :
    Draft.cut start (endsFrom start cells) (cells.flatten ++ rest) = cells := by
  induction cells generalizing start with
  | nil => rfl
  | cons cell cells ih =>
    rw [endsFrom, Draft.cut, Nat.add_sub_cancel_left, List.flatten_cons, List.append_assoc,
      List.take_left, List.drop_left, ih]

/-- The draft holds complete cells and the bytes of an open one. -/
structure Draft.Holds (draft : Draft) (cells : List Cell) (cell : Cell) : Prop where
  bytes : draft.bytes.toList = cells.flatten ++ cell
  ends : draft.ends.toList = endsFrom 0 cells

namespace Draft.Holds

variable {draft : Draft} {cells : List Cell} {cell : Cell}

/-- The empty draft holds nothing. -/
theorem empty : Draft.Holds {} [] [] :=
  ⟨rfl, rfl⟩

/-- A byte that is kept belongs to the open cell. -/
theorem keep (h : draft.Holds cells cell) (b : UInt8) :
    (draft.keep b).Holds cells (cell ++ [b]) where
  bytes := by rw [Draft.keep, Array.toList_push, h.bytes, List.append_assoc]
  ends := h.ends

/-- The open cell that is ended is one more complete cell. -/
theorem endCell (h : draft.Holds cells cell) : draft.endCell.Holds (cells ++ [cell]) [] where
  bytes := by simp [Draft.endCell, h.bytes]
  ends := by
    have hsize : draft.bytes.size = cells.flatten.length + cell.length := by
      rw [← Array.length_toList, h.bytes, List.length_append]
    rw [Draft.endCell, Array.toList_push, h.ends, endsFrom_append, hsize]
    simp [endsFrom]

/-- The cells of a draft are those that it holds. -/
theorem cells_eq (h : draft.Holds cells cell) : draft.cells = cells := by
  rw [Draft.cells, h.bytes, h.ends, cut_endsFrom]

end Draft.Holds

/-- The draft that holds the cells and nothing more. -/
def Draft.ofCells (cells : List Cell) : Draft :=
  ⟨cells.flatten.toArray, (endsFrom 0 cells).toArray⟩

/-- It does so. -/
theorem Draft.holds_ofCells (cells : List Cell) : (Draft.ofCells cells).Holds cells [] :=
  ⟨by simp [ofCells], rfl⟩

/-- No other draft does. -/
theorem Draft.Holds.eq_ofCells {draft : Draft} {cells : List Cell} (h : draft.Holds cells []) :
    draft = Draft.ofCells cells := by
  obtain ⟨bytes, ends⟩ := draft
  obtain ⟨hbytes, hends⟩ := h
  rw [List.append_nil] at hbytes
  simp only [Draft.ofCells, ← hbytes, ← hends, Array.toArray_toList]

/-! ## Reading into scratch space -/

/-- The records to come, the first of which has some cells and a part of the next one already. -/
def resume (cells : List Cell) (cell : Cell) : List (List Cell) → List (List Cell)
  | (first :: more) :: rows => (cells ++ (cell ++ first) :: more) :: rows
  | rows => rows

/-- Nothing that has been read changes nothing. -/
theorem resume_nil (rows : List (List Cell)) : resume [] [] rows = rows := by
  cases rows with
  | nil => rfl
  | cons row rows => cases row <;> rfl

section Resume

variable {place place' : Place} {b c : UInt8} (input : List UInt8) (cells : List Cell) (cell : Cell)

/-- A byte without a mark changes nothing of the records to come. -/
theorem resume_of_step_nothing (h : step place b = (place', .nothing)) :
    resume cells cell (table place (b :: input)) = resume cells cell (table place' input) := by
  rw [table, h, Mark.before]

/-- A byte that is kept belongs to the cell that is open. -/
theorem resume_of_step_keep (h : step place b = (place', .keep c)) :
    resume cells cell (table place (b :: input)) =
      resume cells (cell ++ [c]) (table place' input) := by
  obtain ⟨first, more, rows, htable⟩ := exists_table_eq_cons (ne_between_of_step_keep h) input
  rw [table, h, htable, Mark.before, resume, resume, List.append_assoc]
  rfl

/-- A cell that ends is one more complete cell. -/
theorem resume_of_step_cellEnd (h : step place b = (place', .cellEnd)) :
    resume cells cell (table place (b :: input)) =
      resume (cells ++ [cell]) [] (table place' input) := by
  obtain ⟨first, more, rows, htable⟩ := exists_table_eq_cons (ne_between_of_step_cellEnd h) input
  rw [table, h, htable, Mark.before, resume, resume, List.append_assoc]
  simp

/-- A record that ends has the cell that is open for its last one. -/
theorem resume_of_step_recordEnd (h : step place b = (place', .recordEnd)) :
    resume cells cell (table place (b :: input)) =
      (cells ++ [cell]) :: table .between input := by
  rw [table, h, eq_between_of_step_recordEnd h, Mark.before, resume]
  simp

/-- A record that is open ends with the input. -/
theorem resume_of_finish_recordEnd (h : finish place = .recordEnd) :
    resume cells cell (table place []) = [cells ++ [cell]] := by
  rw [table, h, Mark.before, resume]
  simp

/-- Without a record that is open nothing is to come at the end of the input. -/
theorem resume_of_finish_nothing (h : finish place = .nothing) :
    resume cells cell (table place []) = [] := by
  rw [table, h]
  rfl

end Resume

section Fill

variable {space : Space} {place place' : Place} {draft draft' : Draft} {input rest : List UInt8}
  {cells : List Cell} {cell : Cell}

/-- However far `fill` goes, what the draft holds and what is left of the input give the same
records as before. A record that is complete has no open cell. -/
theorem resume_of_fill {stop : Stop} (hdraft : draft.Holds cells cell)
    (h : fill space place draft input = (stop, place', draft', rest)) :
    ∃ cells' cell', draft'.Holds cells' cell' ∧ (stop = .recordEnd → cell' = []) ∧
      resume cells cell (table place input) =
        if stop = .recordEnd then cells' :: table .between rest
        else resume cells' cell' (table place' rest) := by
  fun_induction fill space place draft input generalizing cells cell with
  | case1 place draft =>
    cases h
    exact ⟨cells, cell, hdraft, by simp, rfl⟩
  | case2 place draft b input =>
    cases h
    exact ⟨cells, cell, hdraft, by simp, rfl⟩
  | case3 place draft b input =>
    cases h
    exact ⟨cells, cell, hdraft, by simp, rfl⟩
  | case4 place draft b input _ _ next hstep ih =>
    rw [resume_of_step_nothing _ _ _ hstep]
    exact ih hdraft h
  | case5 place draft b input _ _ next c hstep ih =>
    rw [resume_of_step_keep _ _ _ hstep]
    exact ih (hdraft.keep c) h
  | case6 place draft b input _ _ next hstep ih =>
    rw [resume_of_step_cellEnd _ _ _ hstep]
    exact ih hdraft.endCell h
  | case7 place draft b input _ _ next hstep =>
    cases h
    refine ⟨cells ++ [cell], [], hdraft.endCell, fun _ => rfl, ?_⟩
    rw [resume_of_step_recordEnd _ _ _ hstep, if_pos rfl]

end Fill

/-- `next` gives the first record of the table, and nothing exactly if there is none. What it gives
holds complete cells only, and what it leaves of the input gives the rest of the table. -/
theorem next_cases (space : Space) (place : Place) (input : List UInt8) {draft : Draft}
    {cells : List Cell} {cell : Cell} (hdraft : draft.Holds cells cell) :
    (next space place draft input = none ∧ resume cells cell (table place input) = []) ∨
    ∃ record space' rest cells', next space place draft input = some (record, space', rest) ∧
      record.Holds cells' [] ∧
      resume cells cell (table place input) = cells' :: table .between rest := by
  fun_induction next space place draft input generalizing cells cell with
  | case1 space place draft input next record rest hfill =>
    obtain ⟨cells', cell', hholds, hclosed, heq⟩ := resume_of_fill hdraft hfill
    rw [hclosed rfl] at hholds
    exact .inr ⟨record, space, rest, cells', rfl, hholds, by rw [heq, if_pos rfl]⟩
  | case2 space place draft input _ _ _ hfill ih =>
    obtain ⟨cells', cell', hholds, -, heq⟩ := resume_of_fill hdraft hfill
    rw [heq, if_neg (by simp)]
    exact ih hholds
  | case3 space place draft input _ _ _ hfill ih =>
    obtain ⟨cells', cell', hholds, -, heq⟩ := resume_of_fill hdraft hfill
    rw [heq, if_neg (by simp)]
    exact ih hholds
  | case4 space place draft input _ _ _ hfill _ _ ih =>
    obtain ⟨cells', cell', hholds, -, heq⟩ := resume_of_fill hdraft hfill
    rw [heq, if_neg (by simp)]
    exact ih hholds
  | case5 space place draft input next record rest hfill hfinish =>
    obtain ⟨cells', cell', hholds, -, heq⟩ := resume_of_fill hdraft hfill
    obtain rfl := rest_eq_nil_of_fill_inputEnd hfill
    refine .inr ⟨record.endCell, space, [], cells' ++ [cell'], rfl, hholds.endCell, ?_⟩
    rw [heq, if_neg (by simp), resume_of_finish_recordEnd _ _ hfinish]
    rfl
  | case6 space place draft input next record rest hfill hfinish =>
    obtain ⟨cells', cell', hholds, -, heq⟩ := resume_of_fill hdraft hfill
    obtain rfl := rest_eq_nil_of_fill_inputEnd hfill
    refine .inl ⟨rfl, ?_⟩
    rw [heq, if_neg (by simp), resume_of_finish_nothing _ _ (finish_eq_nothing hfinish)]

/-- **Scratch space has no influence.** The records that are read into scratch space of any size are
the records of the table, byte for byte and end for end. -/
theorem records_eq_map_ofCells (space : Space) (input : List UInt8) :
    records space input = (table .between input).map Draft.ofCells := by
  fun_induction records space input with
  | case1 space input hnext =>
    have hcases := next_cases space .between input Draft.Holds.empty
    rw [hnext, resume_nil] at hcases
    have hnil : table .between input = [] := by simpa using hcases
    rw [hnil, List.map_nil]
  | case2 space input record space' rest hnext ih =>
    have hcases := next_cases space .between input Draft.Holds.empty
    rw [hnext, resume_nil] at hcases
    obtain ⟨h, -⟩ | ⟨record', space'', rest', cells, hsome, hholds, heq⟩ := hcases
    · cases h
    · cases hsome
      rw [ih, hholds.eq_ofCells, heq, List.map_cons]

/-- The cells of the records are those of the table. -/
theorem map_cells_records (space : Space) (input : List UInt8) :
    (records space input).map Draft.cells = table .between input := by
  have hcells : Draft.cells ∘ Draft.ofCells = id := by
    funext cells
    exact (Draft.holds_ofCells cells).cells_eq
  rw [records_eq_map_ofCells, List.map_map, hcells, List.map_id]

end KnxExport.Csv
