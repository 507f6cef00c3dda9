import KnxExport.Proofs.Csv.Calls
import KnxExport.Proofs.Csv.Contents
import KnxExport.Proofs.Csv.Slices

/-!
# Scratch space of any size

`unbounded` reads records without a limit: the automaton runs over the bytes and every mark is
written into the draft at once. `scanner` is a reader that can be interrupted, built on `fill`, and
it does what a call may do.

Main statement: `calls_of_conforms`. Whatever reader is called, and whatever room it has to begin
with, the loop of calls returns every time, and it gives the records that are read without a limit;
so does `records`. The slices of these records are in order, within their bytes, and all of them.
-/

namespace KnxExport.Csv

/-! ## Reading without a limit -/

/-- The records that are read if there is always room, where some of the first one is in the draft
already. -/
def unboundedFrom : Place → Draft → List UInt8 → List Draft
  | place, draft, [] =>
    match finish place with
    | .recordEnd => [draft.endCell]
    | _ => []
  | place, draft, b :: input =>
    match step place b with
    | (place, .nothing) => unboundedFrom place draft input
    | (place, .keep c) => unboundedFrom place (draft.keep c) input
    | (place, .cellEnd) => unboundedFrom place draft.endCell input
    | (place, .recordEnd) => draft.endCell :: unboundedFrom place {} input

/-- The records that are read if there is always room. -/
def unbounded (input : List UInt8) : List Draft :=
  unboundedFrom .between {} input

/-- What the draft holds comes before the first record of the table. -/
theorem unboundedFrom_eq {place : Place} {draft : Draft} {input : List UInt8} {cells : List Cell}
    {cell : Cell} (h : draft.Holds cells cell) :
    unboundedFrom place draft input =
      (resume cells cell (table place input)).map Draft.ofCells := by
  fun_induction unboundedFrom place draft input generalizing cells cell with
  | case1 place draft hfinish =>
    rw [resume_of_finish_recordEnd _ _ hfinish, h.endCell.eq_ofCells]
    rfl
  | case2 place draft hfinish =>
    rw [resume_of_finish_nothing _ _ (finish_eq_nothing hfinish)]
    rfl
  | case3 place draft b input next hstep ih =>
    rw [ih h, resume_of_step_nothing _ _ _ hstep]
  | case4 place draft b input next c hstep ih =>
    rw [ih (h.keep c), resume_of_step_keep _ _ _ hstep]
  | case5 place draft b input next hstep ih =>
    rw [ih h.endCell, resume_of_step_cellEnd _ _ _ hstep]
  | case6 place draft b input next hstep ih =>
    have hnext : next = .between := eq_between_of_step_recordEnd hstep
    rw [ih Draft.Holds.empty, resume_nil, resume_of_step_recordEnd _ _ _ hstep, hnext,
      h.endCell.eq_ofCells, List.map_cons]

/-- Without a limit the records are those of the table. -/
theorem unbounded_eq (input : List UInt8) :
    unbounded input = (table .between input).map Draft.ofCells := by
  rw [unbounded, unboundedFrom_eq Draft.Holds.empty, resume_nil]

/-! ## What `fill` does, in marks -/

/-- Why `fill` has stopped, as a reader reports it. -/
def Stop.report : Stop → Report
  | .recordEnd => .record
  | .bytesFull => .bytesFull
  | .endsFull => .endsFull
  | .inputEnd => .inputEmpty

/-- What `fill` may give: it has gone over some bytes that do not end the record, and then there
has been a reason to stop, or the next byte has ended the record. -/
inductive Filled (space : Space) (place : Place) (draft : Draft) (input : List UInt8) :
    Stop × Place × Draft × List UInt8 → Prop where
  | stopped {front rest : List UInt8} {stop : Stop} (hinput : input = front ++ rest)
      (hopen : .recordEnd ∉ marks place front)
      (hbytes : (draft.mark (marks place front)).bytes.size ≤ space.bytes)
      (hends : (draft.mark (marks place front)).ends.size ≤ space.ends)
      (hreason : Stops rest (space.bytes - (draft.mark (marks place front)).bytes.size)
        (space.ends - (draft.mark (marks place front)).ends.size) stop.report) :
      Filled space place draft input
        (stop, placeAfter place front, draft.mark (marks place front), rest)
  | record {front rest : List UInt8} {b : UInt8} (hinput : input = front ++ b :: rest)
      (hopen : .recordEnd ∉ marks place front)
      (hend : (step (placeAfter place front) b).2 = .recordEnd)
      (hbytes : (draft.mark (marks place front)).bytes.size ≤ space.bytes)
      (hends : (draft.mark (marks place front)).ends.size < space.ends) :
      Filled space place draft input
        (.recordEnd, .between, (draft.mark (marks place front)).endCell, rest)

section Filled

variable {space : Space} {place : Place} {draft : Draft} {input : List UInt8}

/-- One more byte in front, which does not end the record. -/
theorem Filled.cons {b : UInt8} {result : Stop × Place × Draft × List UInt8} (draft' : Draft)
    (hopen : (step place b).2 ≠ .recordEnd)
    (hmark : ∀ marks, draft.mark ((step place b).2 :: marks) = draft'.mark marks)
    (h : Filled space (step place b).1 draft' input result) :
    Filled space place draft (b :: input) result := by
  cases h with
  | @stopped front rest stop hinput hfront hbytes hends hreason =>
    rw [← hmark] at hbytes hends hreason ⊢
    have hwhole : b :: input = (b :: front) ++ rest := by rw [hinput, List.cons_append]
    refine .stopped hwhole ?_ hbytes hends hreason
    rw [marks, List.mem_cons, not_or]
    exact ⟨hopen.symm, hfront⟩
  | @record front rest d hinput hfront hend hbytes hends =>
    rw [← hmark] at hbytes hends ⊢
    have hwhole : b :: input = (b :: front) ++ d :: rest := by rw [hinput, List.cons_append]
    refine .record hwhole ?_ hend hbytes hends
    rw [marks, List.mem_cons, not_or]
    exact ⟨hopen.symm, hfront⟩

/-- `fill` stops where it is if there is a reason. -/
theorem Filled.here {stop : Stop} (hbytes : draft.bytes.size ≤ space.bytes)
    (hends : draft.ends.size ≤ space.ends)
    (hreason : Stops input (space.bytes - draft.bytes.size) (space.ends - draft.ends.size)
      stop.report) :
    Filled space place draft input (stop, place, draft, input) := by
  rw [← draft.mark_nil] at hbytes hends hreason
  have hfilled : Filled space place draft input
      (stop, placeAfter place [], draft.mark (marks place []), input) :=
    .stopped rfl List.not_mem_nil hbytes hends hreason
  rwa [marks, draft.mark_nil] at hfilled

/-- `fill` gives what it may give, if the draft fits. -/
theorem filled_fill (hbytes : draft.bytes.size ≤ space.bytes)
    (hends : draft.ends.size ≤ space.ends) :
    Filled space place draft input (fill space place draft input) := by
  fun_induction fill space place draft input with
  | case1 place draft => exact .here hbytes hends (.inputEmpty rfl)
  | case2 place draft b input hfull =>
    exact .here hbytes hends (.bytesFull (Nat.sub_eq_zero_of_le hfull))
  | case3 place draft b input _ hfull =>
    exact .here hbytes hends (.endsFull (Nat.sub_eq_zero_of_le hfull))
  | case4 place draft b input _ _ next hstep ih =>
    refine .cons draft (by simp [hstep]) ?_ (by rw [hstep]; exact ih hbytes hends)
    intro marks
    rw [hstep, Draft.mark_nothing]
  | case5 place draft b input hroom _ next c hstep ih =>
    refine .cons (draft.keep c) (by simp [hstep]) ?_ ?_
    · intro marks
      rw [hstep, Draft.mark_keep]
    · rw [hstep]
      apply ih
      · rw [Draft.keep, Array.size_push]
        exact Nat.lt_of_not_le hroom
      · exact hends
  | case6 place draft b input _ hroom next hstep ih =>
    refine .cons draft.endCell (by simp [hstep]) ?_ ?_
    · intro marks
      rw [hstep, Draft.mark_cellEnd]
    · rw [hstep]
      apply ih hbytes
      rw [Draft.endCell, Array.size_push]
      exact Nat.lt_of_not_le hroom
  | case7 place draft b input _ hroom next hstep =>
    have hrecord : Filled space place draft (b :: input)
        (.recordEnd, .between, (draft.mark (marks place [])).endCell, input) := by
      refine .record rfl List.not_mem_nil (by rw [placeAfter, hstep]) ?_ ?_
      · rw [marks, draft.mark_nil]
        exact hbytes
      · rw [marks, draft.mark_nil]
        exact Nat.lt_of_not_le hroom
    rw [eq_between_of_step_recordEnd hstep]
    rwa [marks, draft.mark_nil] at hrecord

end Filled

/-! ## A reader built on `fill` -/

/-- A draft with some bytes, whatever they are. -/
def Draft.blank (size : Nat) : Draft :=
  ⟨Array.replicate size 0, #[]⟩

/-- What a call does from a position: without input the data has ended, and otherwise `fill` goes on
in a draft with as many bytes as have been copied before. -/
def scan (p : Position) (input : List UInt8) (roomBytes roomEnds : Nat) : Reply × Position :=
  if p.visible input = [] then
    match finish p.place with
    | .recordEnd =>
      if roomEnds = 0 then (⟨.endsFull, input.length, [], []⟩, p.after [])
      else (⟨.record, input.length, [], [p.copied]⟩, .ready)
    | _ => (⟨.finished, input.length, [], []⟩, .ready)
  else if hbytes : roomBytes = 0 then
    (⟨.bytesFull, input.length - (p.visible input).length, [], []⟩, p.after [])
  else if hends : roomEnds = 0 then
    (⟨.endsFull, input.length - (p.visible input).length, [], []⟩, p.after [])
  else
    match fill ⟨p.copied + roomBytes, roomEnds, by omega, by omega⟩ p.place (.blank p.copied)
      (p.visible input) with
    | (stop, place, draft, rest) =>
      (⟨stop.report, input.length - rest.length, draft.bytes.toList.drop p.copied,
        draft.ends.toList⟩,
        if stop = .recordEnd then .ready else ⟨place, draft.bytes.size, false⟩)

/-- The reader that does so. -/
def scanner : Resumable Position :=
  ⟨.start, scan⟩

/-- The bytes that marks add to a blank draft. -/
theorem drop_bytes_blank (size : Nat) (marks : List Mark) :
    ((Draft.blank size).mark marks).bytes.toList.drop size = kept marks := by
  simp [Draft.mark, Draft.append, Draft.blank]

/-- The ends that marks add to a blank draft. -/
theorem ends_blank (size : Nat) (marks : List Mark) :
    ((Draft.blank size).mark marks).ends.toList = endsOf size marks := by
  simp [Draft.mark, Draft.append, Draft.blank]

/-- The number of bytes of a blank draft with marks. -/
theorem size_bytes_blank (size : Nat) (marks : List Mark) :
    ((Draft.blank size).mark marks).bytes.size = size + (kept marks).length := by
  rw [Draft.mark, Draft.size_bytes_append, Draft.blank, Array.size_replicate]

/-- The number of ends of a blank draft with marks. -/
theorem size_ends_blank (size : Nat) (marks : List Mark) :
    ((Draft.blank size).mark marks).ends.size = (endsOf size marks).length := by
  rw [← ends_blank, Array.length_toList]

/-- A call may stop where it is if there is a reason. -/
theorem Answers.here {p : Position} {input : List UInt8} {roomBytes roomEnds : Nat}
    {report : Report} (hne : p.visible input ≠ [])
    (hreason : Stops (p.visible input) roomBytes roomEnds report) :
    Answers p input roomBytes roomEnds
      ⟨report, input.length - (p.visible input).length, [], []⟩ (p.after []) :=
  @Answers.stopped p input roomBytes roomEnds [] _ report rfl hne List.not_mem_nil
    (Nat.zero_le _) (Nat.zero_le _) hreason

/-- The scanner does what a call may do. -/
theorem answers_scan (p : Position) (input : List UInt8) (roomBytes roomEnds : Nat) :
    Answers p input roomBytes roomEnds (scan p input roomBytes roomEnds).1
      (scan p input roomBytes roomEnds).2 := by
  unfold scan
  split
  · next hnil =>
    split
    · next hopen =>
      split
      · next hroom => exact .lastFull hnil hopen hroom
      · next hroom => exact .last hnil hopen (Nat.pos_of_ne_zero hroom)
    · next hclosed => exact .finished hnil (finish_eq_nothing hclosed)
  · next hne =>
    split
    · next hroom => exact .here hne (.bytesFull hroom)
    · split
      · next hroom => exact .here hne (.endsFull hroom)
      · next hbytes hends =>
        have hfilled : Filled ⟨p.copied + roomBytes, roomEnds, by omega, by omega⟩ p.place
            (.blank p.copied) (p.visible input) _ :=
          filled_fill (by simp [Draft.blank]) (by simp [Draft.blank])
        generalize fill _ _ _ _ = result at hfilled ⊢
        cases hfilled with
        | @stopped front rest stop hinput hopen hfitBytes hfitEnds hreason =>
          rw [size_bytes_blank] at hfitBytes hreason
          rw [size_ends_blank] at hfitEnds hreason
          rw [Nat.add_sub_add_left] at hreason
          have hreport : stop ≠ .recordEnd := by
            rintro rfl
            cases hreason
          simp only [if_neg hreport, drop_bytes_blank, ends_blank, size_bytes_blank]
          exact .stopped hinput hne hopen (Nat.le_of_add_le_add_left hfitBytes) hfitEnds hreason
        | @record front rest b hinput hopen hend hfitBytes hfitEnds =>
          rw [size_bytes_blank] at hfitBytes
          rw [size_ends_blank] at hfitEnds
          simp only [Draft.endCell, Array.toList_push, drop_bytes_blank, ends_blank,
            size_bytes_blank]
          exact .record hinput hopen hend (Nat.le_of_add_le_add_left hfitBytes) hfitEnds

/-- The scanner does what a reader may do. -/
theorem conforms_scanner : scanner.Conforms id :=
  ⟨rfl, answers_scan⟩

/-! ## The loop and the limit -/

/-- **The sizes of the scratch space have no influence.** Whatever reader is called, the loop of
calls returns every time and gives the records that are read without a limit, and after them
nothing; `records` gives them, too. The slices of each of them are its cells, in order and within
its bytes, which they use up. -/
theorem calls_of_conforms {State : Type} {reader : Resumable State} {position : State → Position}
    (h : reader.Conforms position) (input : List UInt8) (space : Space) :
    (∀ n, ∃ final, Calls reader ⟨reader.start, input, space⟩
      ((List.range n).map fun k => (unbounded (Utf8.dropMark input))[k]?) final) ∧
    records space (Utf8.dropMark input) = unbounded (Utf8.dropMark input) ∧
    ∀ record ∈ unbounded (Utf8.dropMark input), record.Complete := by
  rw [unbounded_eq]
  refine ⟨?_, records_eq_map_ofCells space _, ?_⟩
  · intro n
    have hcome : Session.toCome position ⟨reader.start, input, space⟩ =
        table .between (Utf8.dropMark input) := by
      rw [Session.toCome, h.start]
      rfl
    obtain ⟨final, hcalls, -⟩ := exists_calls h n ⟨reader.start, input, space⟩
      (by rw [h.start]; rfl) (by rw [h.start]; rfl)
    rw [hcome] at hcalls
    simp only [List.getElem?_map]
    exact ⟨final, hcalls⟩
  · intro record hrecord
    obtain ⟨cells, hcells, rfl⟩ := List.mem_map.mp hrecord
    exact complete_ofCells (ne_nil_of_mem_table cells hcells)

/-- Room for one byte and one end, and a record that takes more of both: three calls of the loop
give two records and the end of the data. -/
theorem calls_of_conforms_narrow :
    scanner.Conforms id ∧
      (∃ final, Calls scanner
        ⟨scanner.start, Utf8.encode "\ufeffa,\"b\"\"\"\r\nc", ⟨1, 1, by decide, by decide⟩⟩
        [some ⟨#[0x61, 0x62, 0x22], #[1, 3]⟩, some ⟨#[0x63], #[1]⟩, none] final) ∧
      (Draft.mk #[0x61, 0x62, 0x22] #[1, 3]).Complete := by
  have hread := calls_of_conforms conforms_scanner
    (Utf8.encode "\ufeffa,\"b\"\"\"\r\nc") ⟨1, 1, by decide, by decide⟩
  exact ⟨conforms_scanner, hread.1 3, hread.2.2 _ List.mem_cons_self⟩

end KnxExport.Csv
