import KnxExport.Proofs.Csv.Marks
import KnxExport.Text.Utf8

/-!
# Reading a record call by call

A reader that can be interrupted is called with the input that is left and with the room that is
left for bytes and for ends. It goes on where it has stopped and says why it stops again: the record
is complete, the input is used up, one of the two spaces is full. `nextRecord` is the loop around
such calls. It doubles a space that is full, and after the input is used up it calls once more, with
nothing, which is the end of the data.

`Answers` says what a call may do, and `Conforms` that all calls of a reader do so. Of several
reasons to stop it leaves open which one is given, and without room a reader may stop even where the
next byte would need none.

Main statement: `exists_calls`, every call of the loop returns, with the next record of the table
and no matter how much scratch space there is to begin with. It rests on `exists_nextRecord`, one
call of the loop; what is left of the input and which of the spaces are full is its measure.
-/

namespace KnxExport.Csv

/-! ## Calls of a reader -/

/-- Why a call of a reader returns. -/
inductive Report where
  | inputEmpty
  | bytesFull
  | endsFull
  | record
  /-- There are no more records. -/
  | finished
  deriving DecidableEq, Repr

/-- What a call of a reader does. -/
structure Reply where
  report : Report
  /-- The number of bytes that it takes from the input. -/
  taken : Nat
  /-- The bytes that it copies. -/
  bytes : List UInt8
  /-- The ends of cells that it finds, from the start of the record. -/
  ends : List Nat

/-- A reader that can be interrupted: its state to begin with, and what it does when it is called
with some input, room for bytes and room for ends. -/
structure Resumable (State : Type) where
  start : State
  read : State → List UInt8 → Nat → Nat → Reply × State

/-- Where a reader stands between two calls. -/
structure Position where
  place : Place
  /-- The number of bytes of the record that have been copied. -/
  copied : Nat
  /-- It has not been called yet. -/
  fresh : Bool
  deriving DecidableEq, Repr

namespace Position

/-- Before the first call. -/
def start : Position := ⟨.between, 0, true⟩

/-- Between two records. -/
def ready : Position := ⟨.between, 0, false⟩

variable (p : Position)

/-- The input as the automaton sees it: in its first call a reader skips a byte order mark. -/
def visible (input : List UInt8) : List UInt8 :=
  if p.fresh then Utf8.dropMark input else input

/-- The marks that bytes leave. -/
def marks (front : List UInt8) : List Mark :=
  Csv.marks p.place front

/-- The position after bytes that do not end the record. -/
def after (front : List UInt8) : Position :=
  ⟨placeAfter p.place front, p.copied + (kept (p.marks front)).length, false⟩

/-- What is skipped stands in front. -/
theorem visible_suffix (input : List UInt8) : p.visible input <:+ input := by
  unfold visible Utf8.dropMark
  split
  · split
    · exact List.drop_suffix _ _
    · exact List.suffix_refl _
  · exact List.suffix_refl _

end Position

/-- A reason to stop within a record: nothing is left of the input, or of the room for bytes, or of
the room for ends. -/
inductive Stops (rest : List UInt8) (roomBytes roomEnds : Nat) : Report → Prop where
  | inputEmpty (h : rest = []) : Stops rest roomBytes roomEnds .inputEmpty
  | bytesFull (h : roomBytes = 0) : Stops rest roomBytes roomEnds .bytesFull
  | endsFull (h : roomEnds = 0) : Stops rest roomBytes roomEnds .endsFull

/-- What a call from a position may do, and where it leads. Bytes are taken from the front of the
input, what they leave is copied, and it has to fit. Without input the data has ended, and with it
the record that is open. -/
inductive Answers (p : Position) (input : List UInt8) (roomBytes roomEnds : Nat) :
    Reply → Position → Prop where
  | stopped {front rest : List UInt8} {report : Report} (hinput : p.visible input = front ++ rest)
      (hne : p.visible input ≠ []) (hopen : .recordEnd ∉ p.marks front)
      (hbytes : (kept (p.marks front)).length ≤ roomBytes)
      (hends : (endsOf p.copied (p.marks front)).length ≤ roomEnds)
      (hreason : Stops rest (roomBytes - (kept (p.marks front)).length)
        (roomEnds - (endsOf p.copied (p.marks front)).length) report) :
      Answers p input roomBytes roomEnds
        ⟨report, input.length - rest.length, kept (p.marks front),
          endsOf p.copied (p.marks front)⟩ (p.after front)
  | record {front rest : List UInt8} {b : UInt8} (hinput : p.visible input = front ++ b :: rest)
      (hopen : .recordEnd ∉ p.marks front) (hend : (step (p.after front).place b).2 = .recordEnd)
      (hbytes : (kept (p.marks front)).length ≤ roomBytes)
      (hends : (endsOf p.copied (p.marks front)).length < roomEnds) :
      Answers p input roomBytes roomEnds
        ⟨.record, input.length - rest.length, kept (p.marks front),
          endsOf p.copied (p.marks front) ++ [(p.after front).copied]⟩ .ready
  | lastFull (hinput : p.visible input = []) (hopen : finish p.place = .recordEnd)
      (hroom : roomEnds = 0) :
      Answers p input roomBytes roomEnds ⟨.endsFull, input.length, [], []⟩ (p.after [])
  | last (hinput : p.visible input = []) (hopen : finish p.place = .recordEnd)
      (hroom : 0 < roomEnds) :
      Answers p input roomBytes roomEnds ⟨.record, input.length, [], [p.copied]⟩ .ready
  | finished (hinput : p.visible input = []) (hclosed : finish p.place = .nothing) :
      Answers p input roomBytes roomEnds ⟨.finished, input.length, [], []⟩ .ready

/-- All calls of the reader do what a call may do, if its states stand for these positions. -/
structure Resumable.Conforms {State : Type} (reader : Resumable State)
    (position : State → Position) : Prop where
  start : position reader.start = .start
  read : ∀ state input roomBytes roomEnds,
    Answers (position state) input roomBytes roomEnds
      (reader.read state input roomBytes roomEnds).1
      (position (reader.read state input roomBytes roomEnds).2)

/-! ## The loop -/

/-- What is kept from one record to the next: the state of the reader, the rest of the input and the
sizes of the scratch space. -/
structure Session (State : Type) where
  state : State
  input : List UInt8
  space : Space

/-- The scratch space after a call: one that is full is doubled. -/
def Report.grow : Report → Space → Space
  | .bytesFull, space => space.moreBytes
  | .endsFull, space => space.moreEnds
  | _, space => space

section Loop

variable {State : Type} (reader : Resumable State)

/-- Reads a record in at most so many calls of the reader, where some of it may be in scratch space
already. Nothing is read where the data has ended. -/
def nextRecord : Nat → Session State → Draft → Option (Option Draft × Session State)
  | 0, _, _ => none
  | calls + 1, session, draft =>
    match reader.read session.state session.input (session.space.bytes - draft.bytes.size)
      (session.space.ends - draft.ends.size) with
    | (reply, state) =>
      let next : Session State :=
        ⟨state, session.input.drop reply.taken, reply.report.grow session.space⟩
      let more := draft.append reply.bytes reply.ends
      match reply.report with
      | .record => some (some more, next)
      | .finished => some (none, next)
      | _ => nextRecord calls next more

/-- The loop returns, after at most three calls of the reader for each byte and three more. -/
def Returns (session : Session State) (result : Option Draft) (next : Session State) : Prop :=
  nextRecord reader (3 * session.input.length + 3) session {} = some (result, next)

/-- The loop is run again and again, and every time it returns. -/
inductive Calls : Session State → List (Option Draft) → Session State → Prop where
  | nil (session : Session State) : Calls session [] session
  | cons {session next final : Session State} {result : Option Draft}
      {results : List (Option Draft)} (h : Returns reader session result next)
      (hrest : Calls next results final) : Calls session (result :: results) final

end Loop

/-! ## The loop returns -/

section Loop

variable {State : Type} {reader : Resumable State} {position : State → Position}

/-- The records to come, if no record is open. -/
def Session.toCome (position : State → Position) (session : Session State) : List (List Cell) :=
  table (position session.state).place ((position session.state).visible session.input)

/-- The draft has room in the scratch space and holds what has been read of the record. -/
structure Session.Fits (position : State → Position) (session : Session State) (draft : Draft)
    (cells : List Cell) (cell : Cell) : Prop where
  holds : draft.Holds cells cell
  copied : (position session.state).copied = draft.bytes.size
  bytes : draft.bytes.size ≤ session.space.bytes
  ends : draft.ends.size ≤ session.space.ends

/-- What is left to do: three times the input, and to make room in each space that is full. -/
def Session.remaining (session : Session State) (draft : Draft) : Nat :=
  3 * session.input.length + (draft.bytes.size + 1 - session.space.bytes) +
    (draft.ends.size + 1 - session.space.ends)

/-- What the loop returns where these records are to come: the first of them, with the others still
to come, and nothing if there is none, and then nothing is left of the input. -/
structure Gives (position : State → Position) (rows : List (List Cell)) (result : Option Draft)
    (next : Session State) : Prop where
  ready : position next.state = .ready
  result : result = rows.head?.map Draft.ofCells
  rest : table .between next.input = rows.tail
  consumed : rows = [] → next.input = []

/-- What a call leaves of the input is found behind the bytes that it takes. -/
theorem Position.drop_eq {p : Position} {input front rest : List UInt8}
    (h : p.visible input = front ++ rest) :
    input.drop (input.length - rest.length) = rest ∧ front.length + rest.length ≤ input.length := by
  have hvisible := p.visible_suffix input
  rw [h] at hvisible
  refine ⟨?_, ?_⟩
  · exact (List.suffix_iff_eq_drop.mp ((List.suffix_append front rest).trans hvisible)).symm
  · rw [← List.length_append]
    exact hvisible.length_le

/-- Scratch space is never made smaller. -/
theorem Report.le_grow (report : Report) (space : Space) :
    space.bytes ≤ (report.grow space).bytes ∧ space.ends ≤ (report.grow space).ends := by
  cases report <;> simp only [grow, Space.moreBytes, Space.moreEnds] <;> omega

variable {session : Session State} {draft : Draft} {cells : List Cell} {cell : Cell}
  {front rest : List UInt8} {state : State} {report : Report} {calls : Nat}

/-- Bytes that do not end the record lead on to a draft that fits, and the records to come stay the
same, in scratch space that is no smaller. -/
theorem exists_fits_after (hfits : session.Fits position draft cells cell)
    (hinput : (position session.state).visible session.input = front ++ rest)
    (hopen : .recordEnd ∉ (position session.state).marks front)
    (hstate : position state = (position session.state).after front) (space : Space)
    (hbytes : draft.bytes.size + (kept ((position session.state).marks front)).length ≤ space.bytes)
    (hends : draft.ends.size + (endsOf (position session.state).copied
      ((position session.state).marks front)).length ≤ space.ends) :
    ∃ cells' cell', Session.Fits position ⟨state, rest, space⟩
        (draft.append (kept ((position session.state).marks front))
          (endsOf (position session.state).copied ((position session.state).marks front)))
        cells' cell' ∧
      resume cells cell (session.toCome position) =
        resume cells' cell' (Session.toCome position ⟨state, rest, space⟩) := by
  obtain ⟨cells', cell', hholds, hresume⟩ := exists_holds_mark hopen hfits.holds
  refine ⟨cells', cell', ⟨?_, ?_, ?_, ?_⟩, ?_⟩
  · rw [hfits.copied]
    exact hholds
  · rw [hstate, Draft.size_bytes_append, ← hfits.copied]
    rfl
  · rw [Draft.size_bytes_append]
    exact hbytes
  · rw [Draft.size_ends_append]
    exact hends
  · rw [Session.toCome, Session.toCome, hinput, hresume, hstate]
    rfl

/-- Less is left to do after a call that stops within a record: it has taken some input, or there is
room now where there was none. -/
theorem remaining_lt_of_stops (hfits : session.Fits position draft cells cell)
    {bytes : List UInt8} {ends : List Nat}
    (hlength : front.length + rest.length ≤ session.input.length)
    (hnone : front = [] → bytes = [] ∧ ends = []) (hprogress : report = .inputEmpty → front ≠ [])
    (hbytes : bytes.length ≤ session.space.bytes - draft.bytes.size)
    (hends : ends.length ≤ session.space.ends - draft.ends.size)
    (hreason : Stops rest (session.space.bytes - draft.bytes.size - bytes.length)
      (session.space.ends - draft.ends.size - ends.length) report) :
    Session.remaining ⟨state, rest, report.grow session.space⟩ (draft.append bytes ends) <
      session.remaining draft := by
  have hfitBytes := hfits.bytes
  have hfitEnds := hfits.ends
  unfold Session.remaining
  rw [Draft.size_bytes_append, Draft.size_ends_append]
  rcases List.eq_nil_or_concat front with rfl | ⟨init, last, rfl⟩
  · obtain ⟨rfl, rfl⟩ := hnone rfl
    rw [List.length_nil, Nat.zero_add] at hlength
    have hspaceBytes := session.space.bytes_pos
    have hspaceEnds := session.space.ends_pos
    cases hreason with
    | inputEmpty hrest => exact absurd rfl (hprogress rfl)
    | bytesFull hfull =>
      simp only [Report.grow, Space.moreBytes, List.length_nil] at hfull ⊢
      omega
    | endsFull hfull =>
      simp only [Report.grow, Space.moreEnds, List.length_nil] at hfull ⊢
      omega
  · obtain ⟨hmoreBytes, hmoreEnds⟩ := report.le_grow session.space
    rw [List.concat_eq_append, List.length_append, List.length_singleton] at hlength
    dsimp only
    omega

/-- After a call that stops within a record the loop goes on, with more room if there was none. -/
theorem nextRecord_of_stops {taken roomBytes roomEnds : Nat} {bytes : List UInt8}
    {ends : List Nat}
    (hreply : reader.read session.state session.input (session.space.bytes - draft.bytes.size)
      (session.space.ends - draft.ends.size) = (⟨report, taken, bytes, ends⟩, state))
    (hreason : Stops rest roomBytes roomEnds report) :
    nextRecord reader (calls + 1) session draft =
      nextRecord reader calls
        ⟨state, session.input.drop taken, report.grow session.space⟩ (draft.append bytes ends) := by
  rw [nextRecord, hreply]
  cases hreason with
  | inputEmpty _ => rfl
  | bytesFull _ => rfl
  | endsFull _ => rfl

/-- A call that stops within a record: the loop goes on where less is left to do, and the records to
come stay the same. -/
theorem exists_fits_of_stops (hfits : session.Fits position draft cells cell)
    (hinput : (position session.state).visible session.input = front ++ rest)
    (hopen : .recordEnd ∉ (position session.state).marks front)
    (hstate : position state = (position session.state).after front)
    (hbytes : (kept ((position session.state).marks front)).length ≤
      session.space.bytes - draft.bytes.size)
    (hends : (endsOf (position session.state).copied
      ((position session.state).marks front)).length ≤ session.space.ends - draft.ends.size)
    (hprogress : report = .inputEmpty → front ≠ [])
    (hreason : Stops rest
      (session.space.bytes - draft.bytes.size -
        (kept ((position session.state).marks front)).length)
      (session.space.ends - draft.ends.size - (endsOf (position session.state).copied
        ((position session.state).marks front)).length) report)
    (hreply : reader.read session.state session.input (session.space.bytes - draft.bytes.size)
      (session.space.ends - draft.ends.size) =
        (⟨report, session.input.length - rest.length, kept ((position session.state).marks front),
          endsOf (position session.state).copied ((position session.state).marks front)⟩, state)) :
    ∃ next more cells' cell',
      nextRecord reader (calls + 1) session draft = nextRecord reader calls next more ∧
      next.Fits position more cells' cell' ∧ next.remaining more < session.remaining draft ∧
      resume cells cell (session.toCome position) =
        resume cells' cell' (next.toCome position) := by
  have hfitBytes := hfits.bytes
  have hfitEnds := hfits.ends
  obtain ⟨hdrop, hlength⟩ := Position.drop_eq hinput
  obtain ⟨hmoreBytes, hmoreEnds⟩ := report.le_grow session.space
  obtain ⟨cells', cell', hfits', hcome⟩ := exists_fits_after hfits hinput hopen hstate
    (report.grow session.space) (by omega) (by omega)
  refine ⟨_, _, cells', cell', ?_, hfits', ?_, hcome⟩
  · rw [nextRecord_of_stops hreply hreason, hdrop]
  · apply remaining_lt_of_stops hfits hlength ?_ hprogress hbytes hends hreason
    rintro rfl
    exact ⟨rfl, rfl⟩

/-- A call that completes a record: the loop returns it, and the next record is to come. -/
theorem exists_gives_of_record (hfits : session.Fits position draft cells cell)
    (hinput : (position session.state).visible session.input = front ++ rest)
    (hopen : .recordEnd ∉ (position session.state).marks front) {taken : Nat}
    (hend : table ((position session.state).after front).place rest =
      [[]] :: table .between (session.input.drop taken))
    (hstate : position state = .ready)
    (hreply : reader.read session.state session.input (session.space.bytes - draft.bytes.size)
      (session.space.ends - draft.ends.size) =
        (⟨.record, taken, kept ((position session.state).marks front),
          endsOf (position session.state).copied ((position session.state).marks front) ++
            [((position session.state).after front).copied]⟩, state)) :
    ∃ result next, nextRecord reader (calls + 1) session draft = some (result, next) ∧
      Gives position (resume cells cell (session.toCome position)) result next := by
  obtain ⟨cells', cell', hholds, hresume⟩ := exists_holds_mark hopen hfits.holds
  have hmore : draft.append (kept ((position session.state).marks front))
      (endsOf (position session.state).copied ((position session.state).marks front) ++
        [((position session.state).after front).copied]) = Draft.ofCells (cells' ++ [cell']) := by
    rw [← hholds.endCell.eq_ofCells, Position.after, hfits.copied]
    exact draft.append_singleton_end _ _
  have hcome : resume cells cell (session.toCome position) =
      (cells' ++ [cell']) :: table .between (session.input.drop taken) := by
    have hplace : placeAfter (position session.state).place front =
        ((position session.state).after front).place := rfl
    rw [Session.toCome, hinput, hresume, hplace, hend, resume]
    simp
  refine ⟨some (Draft.ofCells (cells' ++ [cell'])),
    ⟨state, session.input.drop taken, session.space⟩, ?_, hstate, ?_, ?_, ?_⟩
  · rw [nextRecord, hreply, ← hmore]
    rfl
  · rw [hcome]
    rfl
  · rw [hcome]
    rfl
  · intro hnil
    rw [hcome] at hnil
    cases hnil

/-- **A call of the loop returns**, with the first record to come. -/
theorem exists_nextRecord (h : reader.Conforms position) (calls : Nat) (session : Session State)
    {draft : Draft} {cells : List Cell} {cell : Cell}
    (hfits : session.Fits position draft cells cell) (hcalls : session.remaining draft < calls) :
    ∃ result next, nextRecord reader calls session draft = some (result, next) ∧
      Gives position (resume cells cell (session.toCome position)) result next := by
  induction calls generalizing session draft cells cell with
  | zero => exact absurd hcalls (Nat.not_lt_zero _)
  | succ calls ih =>
    have hanswers := h.read session.state session.input
      (session.space.bytes - draft.bytes.size) (session.space.ends - draft.ends.size)
    rcases hreply : reader.read session.state session.input
      (session.space.bytes - draft.bytes.size) (session.space.ends - draft.ends.size) with
      ⟨reply, state⟩
    rw [hreply] at hanswers
    generalize hstate : position state = after at hanswers
    cases hanswers with
    | @stopped front rest report hinput hne hopen hbytes hends hreason =>
      have hprogress : report = .inputEmpty → front ≠ [] := by
        rintro rfl rfl
        cases hreason with
        | inputEmpty hrest => exact hne (by rw [hinput, hrest, List.append_nil])
      obtain ⟨next, more, cells', cell', hloop, hfits', hless, hcome⟩ :=
        exists_fits_of_stops hfits hinput hopen hstate hbytes hends hprogress hreason hreply
      rw [hloop, hcome]
      exact ih next hfits' (Nat.lt_of_lt_of_le hless (Nat.le_of_lt_succ hcalls))
    | lastFull hinput hopen hroom =>
      have hempty : (position session.state).visible session.input = [] ++ [] := hinput
      obtain ⟨next, more, cells', cell', hloop, hfits', hless, hcome⟩ :=
        exists_fits_of_stops hfits hempty List.not_mem_nil hstate (Nat.zero_le _) (Nat.zero_le _)
          (by simp) (.endsFull hroom) hreply
      rw [hloop, hcome]
      exact ih next hfits' (Nat.lt_of_lt_of_le hless (Nat.le_of_lt_succ hcalls))
    | @record front rest b hinput hopen hend hbytes hends =>
      have hwhole : (position session.state).visible session.input = (front ++ [b]) ++ rest := by
        rw [hinput, List.append_assoc, List.singleton_append]
      have hplace : (step ((position session.state).after front).place b).1 = .between :=
        eq_between_of_step_recordEnd (Prod.ext rfl hend)
      refine exists_gives_of_record hfits hinput hopen ?_ hstate hreply
      rw [(Position.drop_eq hwhole).1, table, hend, hplace, Mark.before]
    | last hinput hopen hroom =>
      have hempty : (position session.state).visible session.input = [] ++ [] := hinput
      refine exists_gives_of_record hfits hempty List.not_mem_nil ?_ hstate hreply
      show (finish (position session.state).place).before [] = _
      rw [hopen, List.drop_length]
      rfl
    | finished hinput hclosed =>
      have hcome : resume cells cell (session.toCome position) = [] := by
        rw [Session.toCome, hinput, resume_of_finish_nothing _ _ hclosed]
      refine ⟨none, ⟨state, session.input.drop session.input.length, session.space⟩, ?_, hstate,
        ?_, ?_, ?_⟩
      · rw [nextRecord, hreply]
        rfl
      · rw [hcome]
        rfl
      · rw [hcome, List.drop_length]
        rfl
      · intro _
        exact List.drop_length

/-- Between two records nothing has been read of the record to come. -/
theorem Session.fits_empty (hcopied : (position session.state).copied = 0) :
    session.Fits position {} [] [] :=
  ⟨Draft.Holds.empty, hcopied, Nat.zero_le _, Nat.zero_le _⟩

/-- Before a record there is room in both of the spaces. -/
theorem Session.remaining_empty (session : Session State) :
    session.remaining {} = 3 * session.input.length := by
  have hbytes := session.space.bytes_pos
  have hends := session.space.ends_pos
  show 3 * session.input.length + (0 + 1 - session.space.bytes) + (0 + 1 - session.space.ends) = _
  omega

/-- Between two records and without input there is no record to come. -/
theorem Session.toCome_eq_nil (hplace : (position session.state).place = .between)
    (hinput : session.input = []) : session.toCome position = [] := by
  have hvisible := (position session.state).visible_suffix session.input
  rw [hinput, List.suffix_nil] at hvisible
  rw [Session.toCome, hplace, hinput, hvisible]
  rfl

/-- **Every call of the loop returns**, with the record to come, and after the last record with
nothing. Once the records have come to an end, the input is used up. -/
theorem exists_calls (h : reader.Conforms position) (n : Nat) (session : Session State)
    (hplace : (position session.state).place = .between)
    (hcopied : (position session.state).copied = 0) :
    ∃ final, Calls reader session
        ((List.range n).map fun k => (session.toCome position)[k]?.map Draft.ofCells) final ∧
      ((session.toCome position).length < n ∨ session.input = [] → final.input = []) := by
  induction n generalizing session with
  | zero =>
    refine ⟨session, .nil session, ?_⟩
    rintro (hlength | hinput)
    · exact absurd hlength (Nat.not_lt_zero _)
    · exact hinput
  | succ n ih =>
    obtain ⟨result, next, hnext, hgives⟩ := exists_nextRecord h
      (3 * session.input.length + 3) session (Session.fits_empty hcopied)
      (by rw [session.remaining_empty]; omega)
    rw [resume_nil] at hgives
    have hcome : next.toCome position = (session.toCome position).tail := by
      rw [← hgives.rest, Session.toCome, hgives.ready]
      rfl
    obtain ⟨final, hcalls, hconsumed⟩ := ih next (by rw [hgives.ready]; rfl)
      (by rw [hgives.ready]; rfl)
    refine ⟨final, ?_, ?_⟩
    · have hresults : (List.range (n + 1)).map (fun k =>
          (session.toCome position)[k]?.map Draft.ofCells) =
          result :: (List.range n).map fun k => (next.toCome position)[k]?.map Draft.ofCells := by
        rw [List.range_succ_eq_map, List.map_cons, List.map_map, hgives.result, hcome,
          List.head?_eq_getElem?]
        simp only [List.getElem?_tail]
        rfl
      rw [hresults]
      exact .cons hnext hcalls
    · intro hend
      apply hconsumed
      by_cases hnil : session.toCome position = []
      · exact .inr (hgives.consumed hnil)
      · rcases hend with hlength | hinput
        · have hpos := List.length_pos_iff.mpr hnil
          rw [hcome, List.length_tail]
          exact .inl (by omega)
        · exact absurd (Session.toCome_eq_nil hplace hinput) hnil

end Loop

end KnxExport.Csv
