import KnxExport.Proofs.Export.Outcome
import KnxExport.Proofs.Text.Sequences

/-!
# Cells that are not UTF-8

A fault of a cell names the first cell of the export that is not UTF-8 by its row and column, and
says where in the cell the bytes stop being a text. Each cell is read alone: a character that a
comma cuts counts against the cell that it begins in, even if the cells on both sides of the comma
would be a text without it.

Main statement: `fault_of_cell`. It rests on `exists_record_of_resultFrom` for the place of the
cell and on `Utf8.stopsBehind_of_decode` for the place in it.
-/

namespace KnxExport.Export

/-- Cells that are decoded are well-formed. -/
theorem Decoded.wellFormed {cells : List Csv.Cell} {texts : List String}
    (h : Decoded cells texts) : ∀ cell ∈ cells, Utf8.WellFormed cell := by
  induction h with
  | nil => simp
  | cons hcell _ ih =>
    rw [List.forall_mem_cons]
    exact ⟨Utf8.wellFormed_iff.mpr ⟨_, hcell⟩, ih⟩

/-- The first cell of a record that is not UTF-8, and the cells before it. -/
theorem FirstBad.exists_cell {cells : List Csv.Cell} {column : Nat} {fault : Utf8.Fault}
    (h : FirstBad cells column fault) :
    ∃ cell, cells[column]? = some cell ∧ Utf8.StopsBehind 0 cell fault ∧
      ∀ before ∈ cells.take column, Utf8.WellFormed before := by
  obtain ⟨front, cell, rest, texts, rfl, rfl, htexts, hcell⟩ := h
  refine ⟨cell, by simp, Utf8.stopsBehind_of_decode hcell, ?_⟩
  rw [List.take_left]
  exact htexts.wellFormed

/-- **A fault of a cell says where it is.** Its row is that of a record, and its column is the first
of this record with a cell that is not well-formed by itself; all cells of the records before are
well-formed. Up to the place that it gives the cell is well-formed, and no longer beginning is.
There is no length if and only if some bytes behind the cell would make it well-formed, and
otherwise the length is that of the longest beginning of a character at this place, or one. -/
theorem fault_of_cell {input : List UInt8} {row column : Nat} {fault : Utf8.Fault}
    (h : ingest input = .error (.invalidUtf8 row column fault)) :
    ∃ cells cell, 1 ≤ row ∧ (records input)[row - 1]? = some cells ∧
      cells[column]? = some cell ∧ ¬ Utf8.WellFormed cell ∧
      (∀ before ∈ cells.take column, Utf8.WellFormed before) ∧
      (∀ above ∈ (records input).take (row - 1), ∀ before ∈ above, Utf8.WellFormed before) ∧
      IsGreatest (Utf8.beginnings Utf8.WellFormed cell) fault.validUpTo ∧
      (fault.length? = none ↔ ∃ more, Utf8.WellFormed (cell ++ more)) ∧
      ∀ length, fault.length? = some length →
        ∃ n, IsGreatest (Utf8.beginnings Utf8.Opens (cell.drop fault.validUpTo)) n ∧
          length = max 1 n := by
  have hrows : resultFrom 1 (records input) = .error (.invalidUtf8 row column fault) := h
  obtain ⟨i, cells, rfl, hcells, hbad, habove⟩ := exists_record_of_resultFrom hrows
  obtain ⟨cell, hcell, hstops, hbefore⟩ := hbad.exists_cell
  have hi : 1 + i - 1 = i := Nat.add_sub_cancel_left 1 i
  rw [hi]
  refine ⟨cells, cell, Nat.le_add_right 1 i, hcells, hcell, hstops.not_wellFormed, hbefore, ?_,
    hstops.isGreatest_wellFormed, hstops.length?_eq_none_iff, ?_⟩
  · intro above hmem
    obtain ⟨texts, htexts⟩ := habove above hmem
    exact htexts.wellFormed
  · intro length hlength
    exact hstops.exists_isGreatest_opens hlength

/-- A character that a comma between two cells cuts, and one that a comma in quotes interrupts. The
cells on both sides of the first comma would be a text together. -/
theorem fault_of_cell_cut :
    (ingest (Utf8.encode "Group name\na,1/0/1,ü" ++ [0xe2, 0x82, 0x2c, 0xac]) =
        .error (.invalidUtf8 2 2 ⟨2, none⟩) ∧
      Utf8.encode "ü€" = [0xc3, 0xbc, 0xe2, 0x82] ++ [0xac] ∧
      ¬ Utf8.WellFormed [0xc3, 0xbc, 0xe2, 0x82] ∧
      IsGreatest (Utf8.beginnings Utf8.WellFormed [0xc3, 0xbc, 0xe2, 0x82]) 2 ∧
      ∃ more, Utf8.WellFormed ([0xc3, 0xbc, 0xe2, 0x82] ++ more)) ∧
    ingest [0x22, 0x61, 0xf0, 0x9f, 0x2c, 0x22] = .error (.invalidUtf8 1 0 ⟨1, some 2⟩) ∧
      IsGreatest (Utf8.beginnings Utf8.Opens [0xf0, 0x9f, 0x2c]) 2 ∧
      ¬ ∃ more, Utf8.WellFormed ([0x61, 0xf0, 0x9f, 0x2c] ++ more) := by
  have hcut : records (Utf8.encode "Group name\na,1/0/1,ü" ++ [0xe2, 0x82, 0x2c, 0xac]) =
      [[Utf8.encode "Group name"],
        [Utf8.encode "a", Utf8.encode "1/0/1", [0xc3, 0xbc, 0xe2, 0x82], [0xac]]] := by
    rw [records_eq_table]
    decide
  have hquoted : records [0x22, 0x61, 0xf0, 0x9f, 0x2c, 0x22] = [[[0x61, 0xf0, 0x9f, 0x2c]]] := by
    rw [records_eq_table]
    decide
  have hfirst : ingest (Utf8.encode "Group name\na,1/0/1,ü" ++ [0xe2, 0x82, 0x2c, 0xac]) =
      .error (.invalidUtf8 2 2 ⟨2, none⟩) := by
    unfold ingest read
    rw [hcut]
    rfl
  have hsecond : ingest [0x22, 0x61, 0xf0, 0x9f, 0x2c, 0x22] =
      .error (.invalidUtf8 1 0 ⟨1, some 2⟩) := by
    unfold ingest read
    rw [hquoted]
    rfl
  refine ⟨⟨hfirst, by decide, ?_⟩, hsecond, ?_⟩
  · obtain ⟨cells, cell, -, hcells, hcell, hbad, -, -, hgreatest, hmore, -⟩ := fault_of_cell hfirst
    rw [hcut] at hcells
    cases hcells
    cases hcell
    exact ⟨hbad, hgreatest, hmore.mp rfl⟩
  · obtain ⟨cells, cell, -, hcells, hcell, -, -, -, -, hmore, hlength⟩ := fault_of_cell hsecond
    rw [hquoted] at hcells
    cases hcells
    cases hcell
    obtain ⟨n, hopens, hn⟩ := hlength 2 rfl
    obtain rfl : n = 2 := by omega
    refine ⟨hopens, ?_⟩
    rw [← hmore]
    simp

end KnxExport.Export
