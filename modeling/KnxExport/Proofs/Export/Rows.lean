import KnxExport.Proofs.Export.Records

/-!
# Reading rows one after the other

Reading stops at the first row with a fault, so the result for some rows and the rows after them is
put together from the two results. The number of a row has no influence but on the faults that it is
named in.

Main statement: `ingest_append`, reading an export that goes on behind the end of a record.
-/

namespace KnxExport.Export

/-- The group addresses of rows, the first of which has the number `row`, or their first fault. -/
def resultFrom (row : Nat) (rows : List (List Csv.Cell)) : Except Fault (List GroupAddress) :=
  (readRows row rows).result

/-- Without rows there are no group addresses. -/
@[simp] theorem resultFrom_nil (row : Nat) : resultFrom row [] = .ok [] :=
  rfl

/-- The first row decides, if it has a fault; otherwise its group address, if it has one, comes
before those of the rows after it. -/
theorem resultFrom_cons (row : Nat) (cells : List Csv.Cell) (rest : List (List Csv.Cell)) :
    resultFrom row (cells :: rest) =
      match Row.leaf? <$> readRow row cells with
      | .error fault => .error fault
      | .ok leaf => (leaf.toList ++ ·) <$> resultFrom (row + 1) rest := by
  unfold resultFrom
  rw [readRows]
  cases readRow row cells with
  | error fault => rfl
  | ok read =>
    rcases readRows (row + 1) rest with ⟨rows, _ | fault⟩
    · cases read <;> rfl
    · rfl

/-- The fault, some rows further down. -/
def Fault.shift (n : Nat) : Fault → Fault
  | .tooFewColumns row actual => .tooFewColumns (row + n) actual
  | .invalidAddress row fault => .invalidAddress (row + n) fault
  | .invalidUtf8 row column fault => .invalidUtf8 (row + n) column fault

/-- Cells further down have the same texts or the same fault. -/
theorem decodeCells_add (row n column : Nat) (cells : List Csv.Cell) :
    decodeCells (row + n) column cells =
      (decodeCells row column cells).mapError (Fault.shift n) := by
  induction cells generalizing column with
  | nil => rfl
  | cons cell cells ih =>
    rw [decodeCells, decodeCells]
    cases Utf8.decode cell with
    | error fault => rfl
    | ok text =>
      simp only
      rw [ih]
      cases decodeCells row (column + 1) cells <;> rfl

/-- Texts further down are the same row or have the same fault. -/
theorem readTexts_add (row n : Nat) (texts : List String) :
    readTexts (row + n) texts = (readTexts row texts).mapError (Fault.shift n) := by
  unfold readTexts
  split
  · rfl
  · split
    · split
      · rfl
      · unfold readLeaf
        split <;> rfl
    · rfl

/-- A row further down is read as the same or has the same fault. -/
theorem readRow_add (row n : Nat) (cells : List Csv.Cell) :
    readRow (row + n) cells = (readRow row cells).mapError (Fault.shift n) := by
  unfold readRow
  rw [decodeCells_add]
  cases decodeCells row 0 cells with
  | error fault => rfl
  | ok texts => exact readTexts_add row n texts

/-- Rows further down have the same group addresses or the same fault. -/
theorem resultFrom_add (row n : Nat) (rows : List (List Csv.Cell)) :
    resultFrom (row + n) rows = (resultFrom row rows).mapError (Fault.shift n) := by
  induction rows generalizing row with
  | nil => rfl
  | cons cells rows ih =>
    rw [resultFrom_cons, resultFrom_cons, readRow_add]
    cases readRow row cells with
    | error fault => rfl
    | ok read =>
      rw [Nat.add_right_comm, ih]
      cases resultFrom (row + 1) rows <;> rfl

/-- A fault of the front rows hides the rest; without one the rest is read as well, with the numbers
that it has behind the front. -/
theorem resultFrom_append (row : Nat) (front rest : List (List Csv.Cell)) :
    resultFrom row (front ++ rest) =
      match resultFrom row front with
      | .error fault => .error fault
      | .ok addresses => (addresses ++ ·) <$> resultFrom (row + front.length) rest := by
  induction front generalizing row with
  | nil =>
    rw [resultFrom_nil]
    simp only [List.nil_append, List.length_nil, Nat.add_zero]
    cases resultFrom row rest <;> rfl
  | cons cells front ih =>
    have hlength : row + (cells :: front).length = row + 1 + front.length := by
      rw [List.length_cons]
      omega
    rw [List.cons_append, resultFrom_cons, resultFrom_cons, hlength]
    cases Row.leaf? <$> readRow row cells with
    | error fault => rfl
    | ok leaf =>
      simp only
      rw [ih]
      cases resultFrom (row + 1) front with
      | error fault => rfl
      | ok addresses =>
        simp only
        cases resultFrom (row + 1 + front.length) rest with
        | error fault => rfl
        | ok more =>
          exact congrArg Except.ok (List.append_assoc _ addresses more).symm

/-- **Reading composes over the ends of records.** Behind a break that does not stand in quotes an
export may be cut, if the rest does not start with a byte order mark: a fault of the front is the
fault of the whole, the group addresses of the two follow one another, and a fault of the rest lies
as many rows further down as the front has records. -/
theorem ingest_append {front rest : List UInt8} (hfront : EndsRecord front)
    (hmark : Utf8.hasMark rest = false) :
    (∀ fault, ingest front = .error fault → ingest (front ++ rest) = .error fault) ∧
    (∀ addresses more, ingest front = .ok addresses → ingest rest = .ok more →
      ingest (front ++ rest) = .ok (addresses ++ more)) ∧
    (∀ addresses fault, ingest front = .ok addresses → ingest rest = .error fault →
      ingest (front ++ rest) = .error (fault.shift (records front).length)) := by
  have hingest : ∀ input, ingest input = resultFrom 1 (records input) := fun _ => rfl
  have hwhole := resultFrom_append 1 (records front) (records rest)
  rw [← records_append hfront hmark, resultFrom_add, ← hingest, ← hingest, ← hingest] at hwhole
  refine ⟨?_, ?_, ?_⟩
  · intro fault herror
    rw [hwhole, herror]
  · intro addresses more hok hmore
    rw [hwhole, hok, hmore]
    rfl
  · intro addresses fault hok herror
    rw [hwhole, hok, herror]
    rfl

/-- A cut between a carriage return and its line feed: the header and the group address before it
count, the empty lines and the byte order mark do not, and the short row behind it is the third. -/
theorem ingest_append_within_break :
    ingest (Utf8.mark ++ Utf8.encode "Group name\r\na,1/0/1,,,,\r" ++
      Utf8.encode "\n\nb,1/0/2,,\n") = .error (.tooFewColumns 3 4) := by
  have hfront : EndsRecord (Utf8.mark ++ Utf8.encode "Group name\r\na,1/0/1,,,,\r") :=
    ⟨Utf8.mark ++ Utf8.encode "Group name\r\na,1/0/1,,,,", 0x0d, by decide, by decide, by decide⟩
  have hrecords : records (Utf8.mark ++ Utf8.encode "Group name\r\na,1/0/1,,,,\r") =
      [[Utf8.encode "Group name"],
        [Utf8.encode "a", Utf8.encode "1/0/1", [], [], [], []]] := by
    rw [records_eq_table]
    decide
  have hrest : records (Utf8.encode "\n\nb,1/0/2,,\n") =
      [[Utf8.encode "b", Utf8.encode "1/0/2", [], []]] := by
    rw [records_eq_table]
    decide
  have hok : ingest (Utf8.mark ++ Utf8.encode "Group name\r\na,1/0/1,,,,\r") =
      .ok [⟨⟨some .lower, "a"⟩, "", .switch, ⟨1, 0, 1⟩, .unknown⟩] := by
    unfold ingest read
    rw [hrecords]
    rfl
  have herror : ingest (Utf8.encode "\n\nb,1/0/2,,\n") = .error (.tooFewColumns 1 4) := by
    unfold ingest read
    rw [hrest]
    rfl
  have hwhole := (ingest_append hfront (by decide)).2.2 _ _ hok herror
  rw [hrecords] at hwhole
  exact hwhole

end KnxExport.Export
