import KnxExport.Csv.Mark

/-!
# Reading records into scratch space

The reader keeps one record at a time in scratch space of limited size, for the bytes of its cells
and for the places where the cells end. `fill` takes input until the record is complete, the input
is used up, or one of the two spaces is full; `next` doubles a space that is full and goes on where
`fill` stopped. `records` is what repeated calls of `next` give. The sizes to begin with therefore
have no influence on the records.
-/

namespace KnxExport.Csv

/-- A cell, as its bytes. -/
abbrev Cell := List UInt8

/-- The sizes of the scratch space. -/
structure Space where
  /-- The number of bytes that fit. -/
  bytes : Nat
  /-- The number of ends of cells that fit. -/
  ends : Nat
  bytes_pos : 0 < bytes := by decide
  ends_pos : 0 < ends := by decide

namespace Space

/-- Space for twice as many bytes. -/
def moreBytes (space : Space) : Space :=
  { space with bytes := space.bytes * 2, bytes_pos := Nat.mul_pos space.bytes_pos (by decide) }

/-- Space for the ends of twice as many cells. -/
def moreEnds (space : Space) : Space :=
  { space with ends := space.ends * 2, ends_pos := Nat.mul_pos space.ends_pos (by decide) }

end Space

/-- A record in scratch space: the bytes of its cells, one cell after the other, and for each cell
the number of bytes up to its end. -/
structure Draft where
  bytes : Array UInt8 := #[]
  ends : Array Nat := #[]

namespace Draft

/-- The draft with one more byte. -/
def keep (draft : Draft) (b : UInt8) : Draft :=
  { draft with bytes := draft.bytes.push b }

/-- The draft with its last cell ended. -/
def endCell (draft : Draft) : Draft :=
  { draft with ends := draft.ends.push draft.bytes.size }

/-- The bytes cut at the ends of the cells, if `start` bytes have been cut off before. -/
def cut (start : Nat) : List Nat → List UInt8 → List Cell
  | [], _ => []
  | stop :: ends, bytes => bytes.take (stop - start) :: cut stop ends (bytes.drop (stop - start))

/-- The cells of the record. -/
def cells (draft : Draft) : List Cell :=
  cut 0 draft.ends.toList draft.bytes.toList

end Draft

/-- Why `fill` has stopped. -/
inductive Stop where
  | recordEnd
  | bytesFull
  | endsFull
  | inputEnd
  deriving DecidableEq, Repr

/-- Takes input into the draft as long as there is room for a byte and for an end. -/
def fill (space : Space) : Place → Draft → List UInt8 → Stop × Place × Draft × List UInt8
  | place, draft, [] => (.inputEnd, place, draft, [])
  | place, draft, b :: input =>
    if space.bytes ≤ draft.bytes.size then (.bytesFull, place, draft, b :: input)
    else if space.ends ≤ draft.ends.size then (.endsFull, place, draft, b :: input)
    else
      match step place b with
      | (place, .nothing) => fill space place draft input
      | (place, .keep c) => fill space place (draft.keep c) input
      | (place, .cellEnd) => fill space place draft.endCell input
      | (place, .recordEnd) => (.recordEnd, place, draft.endCell, input)

section Fill

variable {space : Space} {place place' : Place} {draft draft' : Draft} {input rest : List UInt8}

/-- `fill` stops where it started or takes some input. -/
theorem eq_or_length_lt_of_fill {stop : Stop}
    (h : fill space place draft input = (stop, place', draft', rest)) :
    (place', draft', rest) = (place, draft, input) ∨ rest.length < input.length := by
  fun_induction fill space place draft input <;> grind

/-- If `fill` finds no room for a byte, the space for bytes is used up. -/
theorem size_le_of_fill_bytesFull
    (h : fill space place draft input = (.bytesFull, place', draft', rest)) :
    space.bytes ≤ draft'.bytes.size := by
  fun_induction fill space place draft input <;> grind

/-- If `fill` finds no room for the end of a cell, the space for ends is used up. -/
theorem size_le_of_fill_endsFull
    (h : fill space place draft input = (.endsFull, place', draft', rest)) :
    space.ends ≤ draft'.ends.size := by
  fun_induction fill space place draft input <;> grind

/-- Where `fill` meets the end of the input, nothing is left of it. -/
theorem rest_eq_nil_of_fill_inputEnd
    (h : fill space place draft input = (.inputEnd, place', draft', rest)) :
    rest = [] := by
  fun_induction fill space place draft input <;> grind

/-- What is left to do: input first, then room to be made. -/
def remaining (space : Space) (draft : Draft) (input : List UInt8) : Nat × Nat × Nat :=
  (input.length, draft.bytes.size + 1 - space.bytes, draft.ends.size + 1 - space.ends)

/-- Less is left to do after making room for bytes. -/
theorem remaining_moreBytes_lt
    (h : fill space place draft input = (.bytesFull, place', draft', rest)) :
    Prod.Lex (· < ·) (Prod.Lex (· < ·) (· < ·)) (remaining space.moreBytes draft' rest)
      (remaining space draft input) := by
  have full := size_le_of_fill_bytesFull h
  have pos := space.bytes_pos
  rcases eq_or_length_lt_of_fill h with same | less
  · obtain ⟨rfl, rfl, rfl⟩ := same
    simp only [remaining, Space.moreBytes]
    exact .right _ (.left _ _ (by omega))
  · exact .left _ _ less

/-- Less is left to do after making room for ends. -/
theorem remaining_moreEnds_lt {stop : Stop}
    (h : fill space place draft input = (stop, place', draft', rest))
    (full : space.ends ≤ draft'.ends.size) :
    Prod.Lex (· < ·) (Prod.Lex (· < ·) (· < ·)) (remaining space.moreEnds draft' rest)
      (remaining space draft input) := by
  have pos := space.ends_pos
  rcases eq_or_length_lt_of_fill h with same | less
  · obtain ⟨rfl, rfl, rfl⟩ := same
    simp only [remaining, Space.moreEnds]
    exact .right _ (.right _ (by omega))
  · exact .left _ _ less

/-- A record is complete only after some input. -/
theorem length_lt_of_fill_recordEnd
    (h : fill space place draft input = (.recordEnd, place', draft', rest)) :
    rest.length < input.length := by
  fun_induction fill space place draft input <;> grind

end Fill

/-- Goes on until the record is complete, with more scratch space where it is full, and gives the
record, the space it took and the rest of the input; nothing if the input ends between records. -/
def next (space : Space) (place : Place) (draft : Draft) (input : List UInt8) :
    Option (Draft × Space × List UInt8) :=
  match _ : fill space place draft input with
  | (.recordEnd, _, draft, rest) => some (draft, space, rest)
  | (.bytesFull, place, draft, rest) => next space.moreBytes place draft rest
  | (.endsFull, place, draft, rest) => next space.moreEnds place draft rest
  | (.inputEnd, place, draft, rest) =>
    match finish place with
    | .recordEnd =>
      if _ : space.ends ≤ draft.ends.size then next space.moreEnds place draft rest
      else some (draft.endCell, space, rest)
    | _ => none
termination_by remaining space draft input
decreasing_by
  · exact remaining_moreBytes_lt ‹_›
  · exact remaining_moreEnds_lt ‹_› (size_le_of_fill_endsFull ‹_›)
  · exact remaining_moreEnds_lt ‹_› ‹_›

/-- A record takes input, all the more if the reader stands between records. -/
theorem length_le_of_next {space space' : Space} {place : Place} {draft draft' : Draft}
    {input rest : List UInt8} (h : next space place draft input = some (draft', space', rest)) :
    rest.length ≤ input.length ∧ (place = .between → rest.length < input.length) := by
  fun_induction next space place draft input with
  | case1 space place draft input _ _ _ hfill =>
    have := length_lt_of_fill_recordEnd hfill
    grind
  | case2 space place draft input _ _ _ hfill ih =>
    have := eq_or_length_lt_of_fill hfill
    grind
  | case3 space place draft input _ _ _ hfill ih =>
    have := eq_or_length_lt_of_fill hfill
    grind
  | case4 space place draft input _ _ _ hfill _ _ ih =>
    have := eq_or_length_lt_of_fill hfill
    grind
  | case5 space place draft input _ _ _ hfill hfinish =>
    have := eq_or_length_lt_of_fill hfill
    grind [finish]
  | case6 => simp at h

/-- The records that the calls of `next` give, one after the other. -/
def records (space : Space) (input : List UInt8) : List Draft :=
  match _ : next space .between {} input with
  | none => []
  | some (record, space, rest) => record :: records space rest
termination_by input.length
decreasing_by exact (length_le_of_next ‹_›).2 rfl

end KnxExport.Csv
