import Mathlib.Data.List.Basic
import KnxExport.Proofs.Csv.Table

/-!
# The slices of a record

A record in scratch space is its bytes and the ends of its cells, and its cells are the slices
between two ends. Of a record that is complete the ends are in order and the last one is the end of
the bytes, so that no slice reaches out of the bytes and together they are all of them.

Main statement: `complete_ofCells`.
-/

namespace KnxExport.Csv

/-- The slices of the record lie within its bytes and are its cells. -/
structure Draft.Complete (draft : Draft) : Prop where
  /-- There is a cell. -/
  ends_ne : draft.ends ≠ #[]
  /-- The ends never decrease. -/
  ordered : draft.ends.toList.Pairwise (· ≤ ·)
  /-- The last cell ends where the bytes do. -/
  last : draft.ends.back? = some draft.bytes.size
  /-- There is a cell for each end, ... -/
  length : draft.cells.length = draft.ends.size
  /-- ... which starts where the one before has ended and lies within the bytes. -/
  slices : ∀ i start stop : Nat, (0 :: draft.ends.toList)[i]? = some start →
    draft.ends.toList[i]? = some stop →
      start ≤ stop ∧ stop ≤ draft.bytes.size ∧
        draft.cells[i]? = some (draft.bytes.extract start stop).toList
  /-- The cells, one after the other, are the bytes. -/
  flatten : draft.cells.flatten = draft.bytes.toList

/-- An end is where the bytes of the cells up to it end. -/
theorem getElem?_endsFrom {start i stop : Nat} {cells : List Cell} :
    (endsFrom start cells)[i]? = some stop ↔
      i < cells.length ∧ stop = start + (cells.take (i + 1)).flatten.length := by
  induction cells generalizing start i with
  | nil => simp [endsFrom]
  | cons cell cells ih =>
    rw [endsFrom]
    rcases i with _ | i
    · simp [eq_comm]
    · rw [List.getElem?_cons_succ, ih, List.take_succ_cons, List.flatten_cons, List.length_append,
        List.length_cons]
      omega

/-- There is an end for each cell. -/
theorem length_endsFrom (start : Nat) (cells : List Cell) :
    (endsFrom start cells).length = cells.length := by
  induction cells generalizing start with
  | nil => rfl
  | cons cell cells ih => rw [endsFrom, List.length_cons, ih, List.length_cons]

/-- A cell starts where the bytes of the cells before it end. -/
theorem eq_of_getElem?_starts {i start : Nat} {cells : List Cell}
    (h : (0 :: endsFrom 0 cells)[i]? = some start) : start = (cells.take i).flatten.length := by
  rcases i with _ | i
  · simpa [eq_comm] using h
  · rw [List.getElem?_cons_succ, getElem?_endsFrom] at h
    rw [h.2, Nat.zero_add]

/-- More cells have no fewer bytes. -/
theorem length_flatten_take_le {i j : Nat} (h : i ≤ j) (cells : List Cell) :
    (cells.take i).flatten.length ≤ (cells.take j).flatten.length := by
  have htake : cells.take j = cells.take i ++ (cells.drop i).take (j - i) := by
    rw [← List.take_add, Nat.add_sub_cancel' h]
  rw [htake, List.flatten_append, List.length_append]
  omega

/-- The bytes of a record are those before a cell, the cell and those after it. -/
theorem flatten_eq_of_getElem? {i : Nat} {cells : List Cell} {cell : Cell}
    (h : cells[i]? = some cell) :
    cells.flatten = (cells.take i).flatten ++ (cell ++ (cells.drop (i + 1)).flatten) := by
  obtain ⟨hi, rfl⟩ := List.getElem?_eq_some_iff.mp h
  rw [← List.flatten_cons, ← List.drop_eq_getElem_cons hi, ← List.flatten_append,
    List.take_append_drop]

/-- The slice between the ends of two cells that follow one another is the second cell. -/
theorem extract_flatten {i : Nat} {cells : List Cell} {cell : Cell} (h : cells[i]? = some cell) :
    cells.flatten.extract (cells.take i).flatten.length (cells.take (i + 1)).flatten.length =
      cell := by
  obtain ⟨hi, rfl⟩ := List.getElem?_eq_some_iff.mp h
  have hstop : (cells.take (i + 1)).flatten.length =
      (cells.take i).flatten.length + cells[i].length := by
    rw [List.take_succ_eq_append_getElem hi, List.flatten_append, List.flatten_singleton,
      List.length_append]
  rw [flatten_eq_of_getElem? h, hstop, List.extract_eq_take_drop, List.drop_left,
    Nat.add_sub_cancel_left, List.take_left]

/-- **The slices of a record with a cell lie within its bytes and are its cells.** -/
theorem complete_ofCells {cells : List Cell} (h : cells ≠ []) : (Draft.ofCells cells).Complete := by
  have hcells : (Draft.ofCells cells).cells = cells := (Draft.holds_ofCells cells).cells_eq
  have hends : (Draft.ofCells cells).ends.toList = endsFrom 0 cells := rfl
  have hbytes : (Draft.ofCells cells).bytes.toList = cells.flatten := rfl
  have hsize : (Draft.ofCells cells).bytes.size = cells.flatten.length := by
    rw [← Array.length_toList, hbytes]
  have hpos : 0 < cells.length := List.length_pos_iff.mpr h
  have hwhole : ∀ i, (cells.take i).flatten.length ≤ cells.flatten.length := by
    intro i
    have hle := length_flatten_take_le (Nat.le_max_left i cells.length) cells
    rwa [List.take_of_length_le (Nat.le_max_right i cells.length)] at hle
  constructor
  · intro hempty
    have hlength := length_endsFrom 0 cells
    rw [← hends, hempty] at hlength
    exact absurd hlength (by simp; omega)
  · rw [hends, List.pairwise_iff_getElem]
    intro i j hi hj hij
    rw [(getElem?_endsFrom.mp (List.getElem?_eq_getElem hi)).2,
      (getElem?_endsFrom.mp (List.getElem?_eq_getElem hj)).2]
    exact Nat.add_le_add_left (length_flatten_take_le (by omega) cells) 0
  · rw [← Array.getLast?_toList, hends, hsize, List.getLast?_eq_getElem?, length_endsFrom,
      getElem?_endsFrom, Nat.sub_add_cancel hpos, List.take_length, Nat.zero_add]
    exact ⟨by omega, rfl⟩
  · rw [hcells, ← Array.length_toList, hends, length_endsFrom]
  · intro i start stop hstart hstop
    rw [hends] at hstart hstop
    obtain rfl := eq_of_getElem?_starts hstart
    obtain ⟨hi, rfl⟩ := getElem?_endsFrom.mp hstop
    have hcell := List.getElem?_eq_getElem hi
    rw [Nat.zero_add, hsize, hcells, Array.toList_extract, hbytes, extract_flatten hcell]
    exact ⟨length_flatten_take_le (Nat.le_succ i) cells, hwhole _, hcell⟩
  · rw [hcells, hbytes]

end KnxExport.Csv
