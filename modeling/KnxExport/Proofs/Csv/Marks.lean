import KnxExport.Proofs.Csv.Table

/-!
# The marks of a text

The automaton leaves a mark for every byte. `marks` lists them, `kept` the bytes that they keep, and
`Draft.mark` is the draft after them: reading a part of a record, without a limit and without the
question where to stop.

Main statement: `exists_holds_mark`, what a draft holds after bytes that do not end the record, and
what is still to come, give the same records as before.
-/

namespace KnxExport.Csv

/-- The marks that bytes leave, from a place on. -/
def marks : Place → List UInt8 → List Mark
  | _, [] => []
  | place, b :: input => (step place b).2 :: marks (step place b).1 input

/-- The byte that a mark keeps. -/
def Mark.kept? : Mark → Option UInt8
  | .keep b => some b
  | _ => none

/-- The bytes that marks keep. -/
def kept (marks : List Mark) : List UInt8 :=
  marks.filterMap Mark.kept?

/-! ## What marks leave in a draft -/

/-- The ends of cells that marks set, if some bytes of the record have been copied before. -/
def endsOf : Nat → List Mark → List Nat
  | _, [] => []
  | copied, .nothing :: marks => endsOf copied marks
  | copied, .keep _ :: marks => endsOf (copied + 1) marks
  | copied, _ :: marks => copied :: endsOf copied marks

/-- The draft with more bytes and more ends. -/
def Draft.append (draft : Draft) (bytes : List UInt8) (ends : List Nat) : Draft :=
  ⟨draft.bytes ++ bytes, draft.ends ++ ends⟩

/-- The draft with what marks leave in it. -/
def Draft.mark (draft : Draft) (marks : List Mark) : Draft :=
  draft.append (kept marks) (endsOf draft.bytes.size marks)

namespace Draft

variable (draft : Draft) (b : UInt8) (marks : List Mark)

/-- No marks leave nothing. -/
theorem mark_nil : draft.mark [] = draft := by
  simp [mark, append, kept, endsOf]

/-- A mark for nothing leaves nothing. -/
theorem mark_nothing : draft.mark (.nothing :: marks) = draft.mark marks :=
  rfl

/-- A byte that is kept comes before what later marks leave. -/
theorem mark_keep : draft.mark (.keep b :: marks) = (draft.keep b).mark marks := by
  simp [mark, append, kept, endsOf, Mark.kept?, Draft.keep]

/-- An end of a cell comes before what later marks leave. -/
theorem mark_cellEnd : draft.mark (.cellEnd :: marks) = draft.endCell.mark marks := by
  have hkept : kept (.cellEnd :: marks) = kept marks := rfl
  simp [mark, append, hkept, endsOf, endCell]

/-- The bytes of a draft with more of them. -/
@[simp] theorem size_bytes_append (bytes : List UInt8) (ends : List Nat) :
    (draft.append bytes ends).bytes.size = draft.bytes.size + bytes.length := by
  rw [← Array.length_toList, append, Array.toList_appendList, List.length_append,
    Array.length_toList]

/-- The ends of a draft with more of them. -/
@[simp] theorem size_ends_append (bytes : List UInt8) (ends : List Nat) :
    (draft.append bytes ends).ends.size = draft.ends.size + ends.length := by
  rw [← Array.length_toList, append, Array.toList_appendList, List.length_append,
    Array.length_toList]

/-- One more end is that of the bytes before it. -/
theorem append_singleton_end (bytes : List UInt8) (ends : List Nat) :
    draft.append bytes (ends ++ [draft.bytes.size + bytes.length]) =
      (draft.append bytes ends).endCell := by
  have hends : draft.ends ++ (ends ++ [draft.bytes.size + bytes.length]) =
      (draft.ends ++ ends).push (draft.bytes.size + bytes.length) := by
    apply Array.ext'
    simp
  rw [endCell, size_bytes_append, append, hends]
  rfl

end Draft

/-- Bytes that do not end the record lead from what a draft holds to what it holds with their
marks, and the records to come stay the same. -/
theorem exists_holds_mark {place : Place} {front : List UInt8}
    (hopen : .recordEnd ∉ marks place front) {draft : Draft} {cells : List Cell} {cell : Cell}
    (hdraft : draft.Holds cells cell) :
    ∃ cells' cell', (draft.mark (marks place front)).Holds cells' cell' ∧
      ∀ rest, resume cells cell (table place (front ++ rest)) =
        resume cells' cell' (table (placeAfter place front) rest) := by
  induction front generalizing place draft cells cell with
  | nil =>
    refine ⟨cells, cell, ?_, fun rest => rfl⟩
    rw [marks, Draft.mark_nil]
    exact hdraft
  | cons b front ih =>
    rw [marks, List.mem_cons, not_or] at hopen
    obtain ⟨hfirst, hrest⟩ := hopen
    simp only [marks, placeAfter, List.cons_append]
    rcases hstep : step place b with ⟨place', mark⟩
    rw [hstep] at hfirst hrest
    cases mark with
    | nothing =>
      simp only [resume_of_step_nothing _ _ _ hstep, Draft.mark_nothing]
      exact ih hrest hdraft
    | keep c =>
      simp only [resume_of_step_keep _ _ _ hstep, Draft.mark_keep]
      exact ih hrest (hdraft.keep c)
    | cellEnd =>
      simp only [resume_of_step_cellEnd _ _ _ hstep, Draft.mark_cellEnd]
      exact ih hrest hdraft.endCell
    | recordEnd => exact absurd rfl hfirst

end KnxExport.Csv
