import KnxExport.Proofs.Csv.Scanner
import KnxExport.Proofs.Export.Outcome
import KnxExport.Proofs.Text.WellFormed

/-!
# What the records of an export hold

Whatever the bytes of an export are, its records hold them, but for commas, quotes and breaks, and
the input is read to its end. If the bytes are UTF-8, then so is every cell, since no cell begins or
ends within a character, and no fault is that a cell is not.

Main statements: `bytes_of_records`, for all bytes; `texts_of_records`, for bytes that are UTF-8.
-/

namespace KnxExport

namespace Utf8

/-- The characters without one leading byte order mark. -/
def skipMark : List Char → List Char
  | [] => []
  | c :: chars => if c = '\ufeff' then chars else c :: chars

/-- Skipping a mark skips its character. -/
theorem dropMark_flatMap_encodeChar (chars : List Char) :
    dropMark (chars.flatMap String.utf8EncodeChar) =
      (skipMark chars).flatMap String.utf8EncodeChar := by
  rcases chars with _ | ⟨c, chars⟩
  · rfl
  · rw [skipMark]
    split
    · next hc =>
      rw [hc, List.flatMap_cons]
      exact dropMark_mark_append _
    · next hc =>
      apply dropMark_eq_self
      by_contra hmark
      rw [Bool.not_eq_false, hasMark, List.isPrefixOf_iff_prefix] at hmark
      obtain ⟨rest, hrest⟩ := hmark
      exact hc (eq_of_encodeChar_append (d := '\ufeff') hrest).symm

end Utf8

namespace Export

/-- A cell that is reported is the first of its record that is not UTF-8. -/
theorem exists_firstBad_of_resultFrom {rows : List (List Csv.Cell)} {first row column : Nat}
    {fault : Utf8.Fault} (h : resultFrom first rows = .error (.invalidUtf8 row column fault)) :
    ∃ cells ∈ rows, FirstBad cells column fault := by
  obtain ⟨i, cells, -, hcells, hbad, -⟩ := exists_record_of_resultFrom h
  exact ⟨cells, List.mem_of_getElem? hcells, hbad⟩

/-- **Reading neither loses nor invents data.** Whatever the bytes of an export are, the cells of
its records, one after the other, are these bytes without some commas, quotes, line feeds and
carriage returns, and without the byte order marks at their beginning. Every record has a cell, and
once the records have come to an end, nothing is left of the input. -/
theorem bytes_of_records (input : List UInt8) :
    (records input).flatten.flatten.Sublist (Utf8.dropMark (Utf8.dropMark input)) ∧
    (records input).flatten.flatten.filter Csv.isContent =
      (Utf8.dropMark (Utf8.dropMark input)).filter Csv.isContent ∧
    (∀ cells ∈ records input, cells ≠ []) ∧
    ∀ n, ∃ final,
      Csv.Calls Csv.scanner ⟨Csv.scanner.start, Utf8.dropMark input, scratch⟩
        ((List.range n).map fun k => (records input)[k]?.map Csv.Draft.ofCells) final ∧
      ((records input).length < n → final.input = []) := by
  rw [records_eq_table, Csv.flatten_table]
  refine ⟨Csv.kept_sublist _ _, Csv.filter_kept _ _, Csv.ne_nil_of_mem_table, ?_⟩
  intro n
  obtain ⟨final, hcalls, hconsumed⟩ := Csv.exists_calls Csv.conforms_scanner n
    ⟨Csv.scanner.start, Utf8.dropMark input, scratch⟩ rfl rfl
  exact ⟨final, hcalls, fun hlength => hconsumed (.inl hlength)⟩

/-- **Reading never cuts a character.** If the bytes of an export are UTF-8, no fault is that a cell
is not: the cells are texts, which hold the characters of the export in their order, and only
commas, quotes, line feeds, carriage returns and the byte order marks at the beginning are missing. -/
theorem texts_of_records {input : List UInt8} {text : String}
    (h : Utf8.decode input = .ok text) :
    (∀ row column fault, ingest input ≠ .error (.invalidUtf8 row column fault)) ∧
    ∃ rows, records input = Csv.encodeRows rows ∧
      Csv.Holds rows (Utf8.skipMark (Utf8.skipMark text.toList)) := by
  obtain rfl := Utf8.decode_eq_ok_iff.mp h
  have htable : records (Utf8.encode text) = Csv.table .between
      ((Utf8.skipMark (Utf8.skipMark text.toList)).flatMap String.utf8EncodeChar) := by
    rw [records_eq_table, Utf8.encode, Utf8.dropMark_flatMap_encodeChar,
      Utf8.dropMark_flatMap_encodeChar]
  obtain ⟨rows, hencode, hholds⟩ := Csv.exists_table_encode .between
    (Utf8.skipMark (Utf8.skipMark text.toList))
  rw [← htable] at hencode
  refine ⟨?_, rows, hencode, hholds⟩
  intro row column fault hfault
  have hrows : resultFrom 1 (records (Utf8.encode text)) = _ := hfault
  obtain ⟨cells, hcells, hbad⟩ := exists_firstBad_of_resultFrom hrows
  rw [hencode] at hcells
  obtain ⟨texts, -, rfl⟩ := List.mem_map.mp hcells
  exact hbad.not_decoded texts (decoded_map_encode texts)

/-- Three byte order marks, text behind closing quotes, a row that is too short and quotes that are
never closed, with characters of two to four bytes next to all of them. -/
theorem texts_of_records_malformed :
    Utf8.decode (Utf8.encode "\ufeff\ufeff\ufeffü,\"é\"\"€\"ß\"\r\"\r😀,") =
        .ok "\ufeff\ufeff\ufeffü,\"é\"\"€\"ß\"\r\"\r😀," ∧
      (∀ row column fault, ingest (Utf8.encode "\ufeff\ufeff\ufeffü,\"é\"\"€\"ß\"\r\"\r😀,") ≠
        .error (.invalidUtf8 row column fault)) ∧
      ∃ rows, records (Utf8.encode "\ufeff\ufeff\ufeffü,\"é\"\"€\"ß\"\r\"\r😀,") =
          Csv.encodeRows rows ∧
        Csv.Holds rows (Utf8.skipMark (Utf8.skipMark
          "\ufeff\ufeff\ufeffü,\"é\"\"€\"ß\"\r\"\r😀,".toList)) := by
  have htext := Utf8.decode_encode "\ufeff\ufeff\ufeffü,\"é\"\"€\"ß\"\r\"\r😀,"
  exact ⟨htext, texts_of_records htext⟩

end Export

end KnxExport
