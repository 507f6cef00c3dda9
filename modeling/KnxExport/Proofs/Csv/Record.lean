import KnxExport.Csv.Writer
import KnxExport.Proofs.Csv.Written
import KnxExport.Proofs.Text.Utf8

/-!
# Written records are read back

The writer puts a record together from left to right and leaves the quotes of a cell open until the
next piece. With its quotes closed, what it has written so far is each cell as it is written alone
(`writtenCell`), with commas between them; this is the invariant of its loop. Every such text is one
of the ways to write a table.

Main statement: `table_writeRecords`, a table that is written record by record is read as that
table. It rests on `exists_written_writeRecord`, one record.
-/

namespace KnxExport.Csv

/-! ## Cells -/

/-- A cell as it is written alone. -/
def writtenCell (cell : String) : List Char :=
  if cell.toList.any isSpecial then '"' :: (cell.toList.flatMap doubleQuote ++ ['"'])
  else cell.toList

/-- A special byte is part of a special character. -/
theorem isPlain_of_mem_encodeChar {c : Char} (hc : isSpecial c = false) {b : UInt8}
    (hb : b ∈ String.utf8EncodeChar c) : IsPlain b ∧ b ≠ quote := by
  have hne : ∀ d : Char, d.toNat < 128 → isSpecial d = true → b ≠ UInt8.ofNat d.toNat := by
    rintro d hd hspecial rfl
    rw [Utf8.eq_of_mem_encodeChar hd hb, hspecial] at hc
    cases hc
  have hcomma : b ≠ comma := hne ',' (by decide) (by decide)
  have hquote : b ≠ quote := hne '"' (by decide) (by decide)
  have hfeed : b ≠ lineFeed := hne '\n' (by decide) (by decide)
  have hreturn : b ≠ carriageReturn := hne '\r' (by decide) (by decide)
  exact ⟨⟨hcomma, by simp [isBreak, hfeed, hreturn]⟩, hquote⟩

/-- Without quotes nothing is doubled. -/
theorem doubled_eq_self {bytes : List UInt8} (h : quote ∉ bytes) : doubled bytes = bytes := by
  induction bytes with
  | nil => rfl
  | cons b bytes ih =>
    rw [List.mem_cons, not_or] at h
    rw [doubled, List.flatMap_cons, if_neg (Ne.symm h.1), ← doubled, ih h.2]
    rfl

/-- Quotes are doubled in the bytes of a text as they are in its characters. -/
theorem doubled_encode (chars : List Char) :
    (chars.flatMap doubleQuote).flatMap String.utf8EncodeChar =
      doubled (chars.flatMap String.utf8EncodeChar) := by
  have hchar : ∀ c, (doubleQuote c).flatMap String.utf8EncodeChar =
      doubled (String.utf8EncodeChar c) := by
    intro c
    by_cases hc : c = '"'
    · subst hc
      decide
    · have hquote : quote ∉ String.utf8EncodeChar c := fun hmem =>
        hc (Utf8.eq_of_mem_encodeChar (d := '"') (by decide) hmem)
      rw [doubleQuote, if_neg hc, List.flatMap_singleton, doubled_eq_self hquote]
  induction chars with
  | nil => rfl
  | cons c chars ih =>
    rw [List.flatMap_cons, List.flatMap_append, hchar, ih, List.flatMap_cons, doubled, doubled,
      doubled, List.flatMap_append]

/-- A cell is written in one of the ways to write it. -/
theorem written_writtenCell (cell : String) :
    WrittenCell (Utf8.encode cell) ((writtenCell cell).flatMap String.utf8EncodeChar) := by
  unfold writtenCell
  by_cases hspecial : cell.toList.any isSpecial = true
  · have hquoted : ('"' :: (cell.toList.flatMap doubleQuote ++ ['"'])).flatMap
        String.utf8EncodeChar = quote :: (doubled (Utf8.encode cell) ++ quote :: []) := by
      rw [List.flatMap_cons, List.flatMap_append, doubled_encode]
      rfl
    have hwritten := @WrittenCell.quoted (Utf8.encode cell) [] (by simp) (by simp)
    rw [List.append_nil] at hwritten
    rw [if_pos hspecial, hquoted]
    exact hwritten
  · rw [if_neg hspecial]
    have hplain : ∀ b ∈ Utf8.encode cell, IsPlain b ∧ b ≠ quote := by
      intro b hb
      obtain ⟨c, hc, hmem⟩ := List.mem_flatMap.mp hb
      refine isPlain_of_mem_encodeChar ?_ hmem
      simp only [Bool.not_eq_true, List.any_eq_false] at hspecial
      simpa using hspecial c hc
    refine WrittenCell.raw ?_ fun b hb => (hplain b hb).1
    intro hhead
    exact (hplain quote (List.mem_of_mem_head? hhead)).2 rfl

/-! ## Records -/

/-- The cells of a record, each as it is written alone, with commas between them. -/
def writtenCells (first : String) (rest : List String) : List Char :=
  writtenCell first ++ rest.flatMap fun cell => ',' :: writtenCell cell

namespace Writer

/-- With its quotes closed, a cell is written as it is written alone. -/
theorem toList_close_cell (w : Writer) (cell : String) :
    (w.cell cell).close.text.toList = w.text.toList ++ writtenCell cell := by
  unfold Writer.cell writtenCell
  split
  · simp [close]
  · simp [close]

/-- A comma closes the quotes of the cell before it. -/
theorem toList_text_comma (w : Writer) :
    w.comma.text.toList = w.close.text.toList ++ [','] := by
  simp [comma]

/-- What has been written, with its quotes closed, is the cells with commas between them. -/
theorem toList_close_foldl (w : Writer) (cells : List String) :
    (cells.foldl (fun w cell => w.comma.cell cell) w).close.text.toList =
      w.close.text.toList ++ cells.flatMap fun cell => ',' :: writtenCell cell := by
  induction cells generalizing w with
  | nil => simp
  | cons cell cells ih =>
    rw [List.foldl_cons, ih, toList_close_cell, toList_text_comma, List.flatMap_cons]
    simp

/-- Behind some text a cell leaves some text. -/
theorem text_cell_ne_empty {w : Writer} (h : w.text ≠ "") (cell : String) :
    (w.cell cell).text ≠ "" := by
  unfold Writer.cell
  split
  · simp [h]
  · simp [h]

/-- Where cells have been written behind some text, there is some. -/
theorem text_foldl_ne_empty {w : Writer} (h : w.text ≠ "") (cells : List String) :
    (cells.foldl (fun w cell => w.comma.cell cell) w).text ≠ "" := by
  induction cells generalizing w with
  | nil => exact h
  | cons cell cells ih =>
    rw [List.foldl_cons]
    exact ih (text_cell_ne_empty (by simp [comma]) cell)

/-- Nothing has been written of a record only if it is one empty cell. -/
theorem eq_empty_of_text_foldl {first : String} {rest : List String}
    (h : (rest.foldl (fun w cell => w.comma.cell cell) (Writer.cell {} first)).text = "") :
    first = "" ∧ rest = [] := by
  cases rest with
  | nil =>
    refine ⟨?_, rfl⟩
    rw [List.foldl_nil, Writer.cell] at h
    split at h
    · simp at h
    · simpa using h
  | cons cell rest =>
    rw [List.foldl_cons] at h
    exact absurd h (text_foldl_ne_empty (text_cell_ne_empty (by simp [comma]) cell) rest)

end Writer

/-- A record is written as its cells with commas between them, but for one that is a single empty
cell. -/
theorem toList_writeRecord (first : String) (rest : List String) :
    (writeRecord (first :: rest)).toList =
      (if first = "" ∧ rest = [] then ['"', '"'] else writtenCells first rest) ++ ['\n'] := by
  have hclose := Writer.toList_close_foldl (Writer.cell {} first) rest
  rw [Writer.toList_close_cell] at hclose
  rw [writeRecord, Writer.finish]
  split
  · next hempty =>
    obtain ⟨rfl, rfl⟩ := Writer.eq_empty_of_text_foldl (by simpa using hempty)
    rfl
  · next hne =>
    have hcells : ¬ (first = "" ∧ rest = []) := by
      rintro ⟨rfl, rfl⟩
      exact hne rfl
    rw [if_neg hcells, String.toList_append, hclose]
    rfl

/-- Cells with commas between them are one of the ways to write a row. -/
theorem written_writtenCells (first : String) (rest : List String) :
    WrittenRow WrittenCell ((first :: rest).map Utf8.encode)
      ((writtenCells first rest).flatMap String.utf8EncodeChar) := by
  induction rest generalizing first with
  | nil =>
    rw [writtenCells, List.flatMap_nil, List.append_nil]
    exact .last (written_writtenCell first)
  | cons cell rest ih =>
    have hcells : (writtenCells first (cell :: rest)).flatMap String.utf8EncodeChar =
        (writtenCell first).flatMap String.utf8EncodeChar ++
          comma :: (writtenCells cell rest).flatMap String.utf8EncodeChar := by
      rw [writtenCells, List.flatMap_append, List.flatMap_cons, List.cons_append,
        List.flatMap_cons]
      rfl
    rw [hcells]
    exact .cons (written_writtenCell first) (ih cell)

/-- Only a single empty cell is written as nothing. -/
theorem eq_empty_of_writtenCells {first : String} {rest : List String}
    (h : writtenCells first rest = []) : first = "" ∧ rest = [] := by
  obtain ⟨hfirst, hrest⟩ := List.append_eq_nil_iff.mp h
  constructor
  · unfold writtenCell at hfirst
    split at hfirst
    · cases hfirst
    · exact String.toList_eq_nil_iff.mp hfirst
  · cases rest with
    | nil => rfl
    | cons cell rest => cases hrest

/-- A record is written in one of the ways to write a row, and a line feed ends it. -/
theorem exists_written_writeRecord {cells : List String} (h : cells ≠ []) :
    ∃ text, WrittenRow WrittenCell (cells.map Utf8.encode) text ∧ text ≠ [] ∧
      Utf8.encode (writeRecord cells) = text ++ [lineFeed] := by
  obtain ⟨first, rest, rfl⟩ := List.exists_cons_of_ne_nil h
  rw [Utf8.encode, toList_writeRecord, List.flatMap_append]
  by_cases hempty : first = "" ∧ rest = []
  · obtain ⟨rfl, rfl⟩ := hempty
    exact ⟨[quote, quote], .last (@WrittenCell.quoted [] [] (by simp) (by simp)), by simp, rfl⟩
  · rw [if_neg hempty]
    refine ⟨_, written_writtenCells first rest, ?_, rfl⟩
    intro hnil
    obtain ⟨c, chars, hchars⟩ :=
      List.exists_cons_of_ne_nil fun hcells => hempty (eq_empty_of_writtenCells hcells)
    rw [hchars, List.flatMap_cons] at hnil
    exact String.utf8EncodeChar_ne_nil (List.append_eq_nil_iff.mp hnil).1

/-- Records that are written one after the other are one of the ways to write their table. -/
theorem written_writeRecords {rows : List (List String)} (h : ∀ cells ∈ rows, cells ≠ []) :
    WrittenRows (rows.map fun cells => cells.map Utf8.encode)
      (Utf8.encode (String.join (rows.map writeRecord))) := by
  induction rows with
  | nil => exact .nil
  | cons cells rows ih =>
    rw [List.forall_mem_cons] at h
    obtain ⟨text, hrow, hne, htext⟩ := exists_written_writeRecord h.1
    have hjoin : Utf8.encode (String.join ((cells :: rows).map writeRecord)) =
        text ++ ([lineFeed] ++ Utf8.encode (String.join (rows.map writeRecord))) := by
      rw [List.map_cons, String.join_cons, Utf8.encode_append, htext, List.append_assoc]
    rw [hjoin]
    exact .cons hrow hne (by simp) (by simp [isBreak]) (ih h.2)

/-- **A table that is written record by record is read as that table.** -/
theorem table_writeRecords {rows : List (List String)} (h : ∀ cells ∈ rows, cells ≠ []) :
    table .between (Utf8.encode (String.join (rows.map writeRecord))) =
      rows.map fun cells => cells.map Utf8.encode :=
  table_of_writtenRows (written_writeRecords h)

/-- A table whose first cell begins with an ASCII character does not begin with a byte order
mark. -/
theorem hasMark_writeRecords {first : String} {c : Char} {chars : List Char}
    (hfirst : first.toList = c :: chars) (hc : c.toNat < 128) (rest : List String)
    (rows : List (List String)) :
    Utf8.hasMark (Utf8.encode (String.join (((first :: rest) :: rows).map writeRecord))) = false := by
  have hstart : ∃ d more, d.toNat < 128 ∧
      (String.join (((first :: rest) :: rows).map writeRecord)).toList = d :: more := by
    have hne : ¬ (first = "" ∧ rest = []) := by
      rintro ⟨rfl, -⟩
      cases hfirst
    rw [List.map_cons, String.join_cons, String.toList_append, toList_writeRecord, if_neg hne,
      writtenCells, writtenCell]
    split
    · exact ⟨'"', _, by decide, rfl⟩
    · rw [hfirst]
      exact ⟨c, _, hc, rfl⟩
  obtain ⟨d, more, hd, htext⟩ := hstart
  have hbyte : ((0xef : UInt8) == UInt8.ofNat d.toNat) = false := by
    rw [beq_eq_false_iff_ne, ne_eq, ← UInt8.toNat_inj, Utf8.toNat_ofNat (by omega)]
    show 239 ≠ d.toNat
    omega
  rw [Utf8.encode, htext, List.flatMap_cons, Utf8.encodeChar_ascii hd, Utf8.hasMark, Utf8.mark,
    List.singleton_append, List.isPrefixOf_cons_cons, hbyte, Bool.false_and]

end KnxExport.Csv
