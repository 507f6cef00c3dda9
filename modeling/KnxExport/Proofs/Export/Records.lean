import KnxExport.Export
import KnxExport.Proofs.Csv.Record

/-!
# The records of an export

The records of an export are the table of its bytes behind up to two byte order marks.

Main statements: `records_of_written`, a table that is written in any way, with or without a byte
order mark in front, is what the export is read as; `records_append`, the records of an export that
ends at the end of a record are followed by those of the bytes behind it.
-/

namespace KnxExport

namespace Utf8

/-- Without a mark there is nothing to skip. -/
theorem dropMark_eq_self {bytes : List UInt8} (h : hasMark bytes = false) :
    dropMark bytes = bytes := by
  rw [dropMark, if_neg (by simp [h])]

/-- A mark in front is skipped. -/
theorem dropMark_mark_append (bytes : List UInt8) : dropMark (mark ++ bytes) = bytes := by
  rw [dropMark, if_pos (by simp [hasMark]), List.drop_left]

/-- Whether bytes start with others is decided before the first byte that these do not have. -/
theorem isPrefixOf_append_cons {start : List UInt8} {b : UInt8} (h : b ∉ start)
    (front rest : List UInt8) :
    start.isPrefixOf (front ++ b :: rest) = start.isPrefixOf front := by
  induction start generalizing front with
  | nil => rfl
  | cons d start ih =>
    rw [List.mem_cons, not_or] at h
    obtain ⟨hne, hstart⟩ := h
    cases front with
    | nil =>
      have hbeq : (d == b) = false := beq_false_of_ne (Ne.symm hne)
      simp [List.isPrefixOf, hbeq]
    | cons c front => simp only [List.cons_append, List.isPrefixOf, ih hstart]

/-- A mark lies before any break, so skipping it does not depend on the break and what follows. -/
theorem dropMark_append_break {b : UInt8} (h : Csv.isBreak b = true) (front rest : List UInt8) :
    dropMark (front ++ b :: rest) = dropMark front ++ b :: rest := by
  have hnot : b ∉ mark := by
    have hany : mark.any Csv.isBreak = false := by decide
    intro hb
    exact List.any_eq_false.mp hany b hb h
  unfold dropMark hasMark
  rw [isPrefixOf_append_cons hnot]
  split
  · next hmark =>
    have hle := (List.isPrefixOf_iff_prefix.mp hmark).length_le
    rw [List.drop_append_of_le_length hle]
  · rfl

end Utf8

namespace Export

/-- The records are the table behind the byte order marks. -/
theorem records_eq_table (input : List UInt8) :
    records input = Csv.table .between (Utf8.dropMark (Utf8.dropMark input)) :=
  Csv.map_cells_records scratch _

/-- **Reading undoes every way of writing.** Whatever way a table is written in, the records of the
export are its rows, in their order and cell for cell, and a byte order mark in front changes
nothing. Only a text that starts with a mark as part of its first cell is not covered: that mark is
skipped as well. -/
theorem records_of_written {rows : List (List Csv.Cell)} {text : List UInt8}
    (h : Csv.Written rows text) (hmark : Utf8.hasMark text = false) :
    records text = rows ∧ records (Utf8.mark ++ text) = rows := by
  have htable : Csv.table .between text = rows := Csv.table_of_written h
  constructor
  · rw [records_eq_table, Utf8.dropMark_eq_self hmark, Utf8.dropMark_eq_self hmark, htable]
  · rw [records_eq_table, Utf8.dropMark_mark_append, Utf8.dropMark_eq_self hmark, htable]

/-- A table in which the ways of writing meet: quotes with a quote, a comma and a tail, an empty
cell at the end of a row, a row of one empty cell, a byte order mark within the table, mixed breaks,
and quotes that only the end of the text closes. -/
theorem records_of_written_mixed :
    records (Utf8.encode "\r\n\"a\"\",\"x\",\r\r\n\"\"\n\ufeff,\"\r\n") =
        [[Utf8.encode "a\",x\"", []], [[]], [Utf8.mark, Utf8.encode "\r\n"]] ∧
      records (Utf8.mark ++ Utf8.encode "\r\n\"a\"\",\"x\",\r\r\n\"\"\n\ufeff,\"\r\n") =
        [[Utf8.encode "a\",x\"", []], [[]], [Utf8.mark, Utf8.encode "\r\n"]] := by
  have hplain : ∀ cell : List UInt8, (cell.all fun b => decide (Csv.IsPlain b)) = true →
      ∀ b ∈ cell, Csv.IsPlain b := by
    intro cell hall b hb
    exact of_decide_eq_true (List.all_eq_true.mp hall b hb)
  have hraw : ∀ cell : Csv.Cell, cell.head? ≠ some Csv.quote →
      (cell.all fun b => decide (Csv.IsPlain b)) = true → Csv.WrittenCell cell cell := by
    intro cell hhead hall
    exact .raw hhead (hplain cell hall)
  have hquoted : Csv.WrittenCell (Utf8.encode "a\",x\"") (Utf8.encode "\"a\"\",\"x\"") :=
    @Csv.WrittenCell.quoted (Utf8.encode "a\",") (Utf8.encode "x\"") (by decide)
      (hplain _ (by decide))
  have hempty : Csv.WrittenCell [] (Utf8.encode "\"\"") :=
    @Csv.WrittenCell.quoted [] [] (by decide) (hplain _ (by decide))
  have hfirst := Csv.WrittenRow.cons hquoted (.last (hraw [] (by decide) (by decide)))
  have hlast := Csv.WrittenRow.cons (hraw Utf8.mark (by decide) (by decide))
    (.last (Csv.WrittenLast.unclosed (Utf8.encode "\r\n")))
  have hmixed : (Utf8.encode "\r\r\n").all Csv.isBreak = true := by decide
  have hfeed : (Utf8.encode "\n").all Csv.isBreak = true := by decide
  have hboth : (Utf8.encode "\r\n").all Csv.isBreak = true := by decide
  have hrows := Csv.WrittenRows.cons hfirst (by decide) (by decide) (List.all_eq_true.mp hmixed)
    (.cons (.last hempty) (by decide) (by decide) (List.all_eq_true.mp hfeed)
      (.last hlast (by decide)))
  have hread := records_of_written (Csv.Written.mk (List.all_eq_true.mp hboth) hrows) (by decide)
  exact hread

/-- A table that is written record by record has its rows for records, if its first cell begins with
an ASCII character: then no mark is skipped. -/
theorem records_writeRecords {first : String} {c : Char} {chars : List Char}
    (hfirst : first.toList = c :: chars) (hc : c.toNat < 128) {rest : List String}
    {rows : List (List String)} (hrows : ∀ cells ∈ rows, cells ≠ []) :
    records (Utf8.encode (String.join (((first :: rest) :: rows).map Csv.writeRecord))) =
      ((first :: rest) :: rows).map fun cells => cells.map Utf8.encode := by
  have hne : ∀ cells ∈ (first :: rest) :: rows, cells ≠ [] :=
    List.forall_mem_cons.mpr ⟨List.cons_ne_nil _ _, hrows⟩
  have hmark := Csv.hasMark_writeRecords hfirst hc rest rows
  rw [records_eq_table, Utf8.dropMark_eq_self hmark, Utf8.dropMark_eq_self hmark,
    Csv.table_writeRecords hne]

/-- The export ends with a break that does not stand in quotes. -/
def EndsRecord (input : List UInt8) : Prop :=
  ∃ front b, input = front ++ [b] ∧ Csv.isBreak b = true ∧
    Csv.placeAfter .between (Utf8.dropMark (Utf8.dropMark front)) ≠ .quoted

/-- **Records compose.** After a break outside of quotes the records go on as if the export began
there, except that a byte order mark would be skipped at its beginning only. -/
theorem records_append {front rest : List UInt8} (hfront : EndsRecord front)
    (hmark : Utf8.hasMark rest = false) :
    records (front ++ rest) = records front ++ records rest := by
  obtain ⟨start, b, rfl, hb, hplace⟩ := hfront
  have hdrop : ∀ more, Utf8.dropMark (Utf8.dropMark (start ++ b :: more)) =
      Utf8.dropMark (Utf8.dropMark start) ++ b :: more := by
    intro more
    rw [Utf8.dropMark_append_break hb, Utf8.dropMark_append_break hb]
  have hbetween : Csv.placeAfter .between (Utf8.dropMark (Utf8.dropMark start) ++ [b]) =
      .between := by
    rw [Csv.placeAfter_append]
    exact Csv.step_break hplace hb
  have hwhole : records (start ++ [b] ++ rest) =
      Csv.table .between (Utf8.dropMark (Utf8.dropMark start) ++ [b] ++ rest) := by
    rw [records_eq_table, List.append_assoc, List.singleton_append, hdrop, List.append_assoc,
      List.singleton_append]
  have hstart : records (start ++ [b]) =
      Csv.table .between (Utf8.dropMark (Utf8.dropMark start) ++ [b]) := by
    rw [records_eq_table, hdrop]
  have hrest : records rest = Csv.table .between rest := by
    rw [records_eq_table, Utf8.dropMark_eq_self hmark, Utf8.dropMark_eq_self hmark]
  rw [hwhole, hstart, hrest, Csv.table_append hbetween]

end Export

end KnxExport
