import KnxExport.Listing
import KnxExport.Proofs.Csv.Record
import KnxExport.Proofs.Export.Classes
import KnxExport.Proofs.Export.Records

/-!
# A listing of comma separated values is read back

A listing of comma separated values is itself a table that the reader of exports reads: the heads of
its columns, and a row of five cells for each record. No text of a record splits a cell or a row or
joins two of them, and its cells tell a record but for how its name divides into floor and label.

Main statement: `read_document_csv`. It rests on `Csv.table_writeRecords` for the rows and on
`shown_eq_of_cells_eq` for what the cells of one row tell.
-/

namespace KnxExport.Listing

/-! ## What a row tells -/

/-- Datapoint types that are listed alike are one type. -/
theorem datapointText_inj {d e : DatapointType} (h : datapointText d = datapointText e) :
    d = e := by
  have hnumber : ∀ n, (DatapointType.numberTag n).toList =
      'D' :: 'P' :: 'T' :: '_' :: (Text.decimal n).toList := by
    intro n
    simp [DatapointType.numberTag]
  have hunknown : ∀ n, DatapointType.numberTag n ≠ "unknown" := by
    intro n hsame
    have hchars := hnumber n
    rw [hsame] at hchars
    simp at hchars
  cases d with
  | known n =>
    cases e with
    | known m =>
      have hchars : (DatapointType.numberTag n).toList = (DatapointType.numberTag m).toList :=
        congrArg String.toList h
      rw [hnumber, hnumber] at hchars
      simp only [List.cons.injEq, true_and, String.toList_inj] at hchars
      rw [Text.decimal_inj hchars]
    | unknown => exact absurd h (hunknown n)
  | unknown =>
    cases e with
    | known m => exact absurd h.symm (hunknown m)
    | unknown => rfl

/-- What a listing shows of a record. -/
def shown (g : GroupAddress) : Address × Kind × String × DatapointType × String :=
  (g.address, g.kind, g.displayName, g.datapoint, g.description)

/-- The cells of a row tell all that is shown of its record. -/
theorem shown_eq_of_cells_eq {g h : GroupAddress} (heq : cells g = cells h) : shown g = shown h := by
  simp only [cells, List.cons.injEq, and_true] at heq
  obtain ⟨haddress, hkind, hname, hdatapoint, hdescription⟩ := heq
  rw [shown, shown, Address.text_inj haddress, Kind.label_inj hkind, hname,
    datapointText_inj hdatapoint, hdescription]

/-- The cells of a row depend on nothing but what is shown of its record. -/
theorem cells_eq_of_shown_eq {g h : GroupAddress} (heq : shown g = shown h) : cells g = cells h := by
  simp only [shown, Prod.mk.injEq] at heq
  obtain ⟨haddress, hkind, hname, hdatapoint, hdescription⟩ := heq
  rw [cells, cells, haddress, hkind, hname, hdatapoint, hdescription]

/-- Rows tell what is shown of their records, one after the other. -/
theorem map_cells_eq_iff {records others : List GroupAddress} :
    others.map cells = records.map cells ↔ others.map shown = records.map shown := by
  induction records generalizing others with
  | nil => simp
  | cons g records ih =>
    cases others with
    | nil => simp
    | cons h others =>
      have hrow : cells h = cells g ↔ shown h = shown g :=
        ⟨shown_eq_of_cells_eq, cells_eq_of_shown_eq⟩
      simp only [List.map_cons, List.cons.injEq, ih, hrow]

/-! ## Reading a listing -/

/-- The rows of a listing. -/
def rows (records : List GroupAddress) : List (List String) :=
  headers :: records.map cells

/-- A listing of comma separated values is its rows, one written after the other. -/
theorem document_csv (records : List GroupAddress) :
    document .csv records = String.join ((rows records).map Csv.writeRecord) := by
  have hpieces : (records.flatMap (adding .csv)).map Piece.text =
      (records.map cells).map Csv.writeRecord := by
    induction records with
    | nil => rfl
    | cons g records ih =>
      rw [List.flatMap_cons, List.map_append, ih]
      rfl
  rw [document, textOf, pieces, List.map_append, List.map_append, hpieces, rows, List.map_cons]
  simp [opening, closing, Piece.text]

/-- A listing has as many heads as cells in a row, and there are some. -/
theorem length_of_mem_rows {records : List GroupAddress} {texts : List String}
    (h : texts ∈ rows records) : texts.length = 5 := by
  rw [rows, List.mem_cons, List.mem_map] at h
  obtain rfl | ⟨g, -, rfl⟩ := h
  · rfl
  · rfl

/-- The table of a listing. -/
theorem table_document_csv (records : List GroupAddress) :
    Csv.table .between (Utf8.encode (document .csv records)) =
      (rows records).map fun texts => texts.map Utf8.encode := by
  rw [document_csv]
  refine Csv.table_writeRecords fun texts htexts => ?_
  rintro rfl
  cases length_of_mem_rows htexts

/-- The records that the reader of exports finds in a listing. -/
theorem records_document_csv (records : List GroupAddress) :
    Export.records (Utf8.encode (document .csv records)) =
      (rows records).map fun texts => texts.map Utf8.encode := by
  have hfirst : "Address".toList = ['A', 'd', 'd', 'r', 'e', 's', 's'] := by simp
  have hrows : ∀ texts ∈ records.map cells, texts ≠ [] := by simp [cells]
  rw [document_csv]
  exact Export.records_writeRecords hfirst (by decide) hrows

/-- Listings are the same where their rows are. -/
theorem document_csv_inj {records others : List GroupAddress} :
    document .csv others = document .csv records ↔ others.map cells = records.map cells := by
  constructor
  · intro heq
    have htable := table_document_csv others
    rw [heq, table_document_csv, rows, rows, List.map_cons, List.map_cons] at htable
    have hcells : Function.Injective fun texts : List String => texts.map Utf8.encode :=
      List.map_injective_iff.mpr Utf8.encode_injective
    exact (List.map_injective_iff.mpr hcells (List.cons.inj htable).2).symm
  · intro heq
    rw [document_csv, document_csv, rows, rows, heq]

/-- **A listing of comma separated values is read back.** With scratch space of any size the reader
of exports gives as many records as the listing has rows, and their cells are decoded as the heads
of the columns and as the five cells of each record, in their order; skipping byte order marks takes
nothing away. So two listings are the same only if they show the same address, kind, display name,
datapoint type and description of each record. -/
theorem read_document_csv (records : List GroupAddress) :
    (∀ space : Csv.Space, List.Forall₂
      (fun record texts => texts.length = 5 ∧ ∀ row,
        Export.decodeCells row 0 (Csv.Draft.cells record) = .ok texts)
      (Csv.records space (Utf8.encode (document .csv records)))
      (headers :: records.map cells)) ∧
    Export.records (Utf8.encode (document .csv records)) =
      (headers :: records.map cells).map (fun texts => texts.map Utf8.encode) ∧
    ∀ others, document .csv others = document .csv records ↔
      others.map shown = records.map shown := by
  refine ⟨?_, records_document_csv records, ?_⟩
  · intro space
    have hcells : (Csv.records space (Utf8.encode (document .csv records))).map Csv.Draft.cells =
        (rows records).map fun texts => texts.map Utf8.encode := by
      rw [Csv.map_cells_records, table_document_csv]
    have hread : List.Forall₂
        (fun record texts => texts.length = 5 ∧ ∀ row,
          Export.decodeCells row 0 record = .ok texts)
        ((rows records).map fun texts => texts.map Utf8.encode) (rows records) := by
      rw [List.forall₂_map_left_iff]
      refine List.forall₂_same.mpr fun texts htexts => ⟨length_of_mem_rows htexts, fun row => ?_⟩
      exact Export.decodeCells_of_decoded (Export.decoded_map_encode texts) row 0
    rw [← hcells, List.forall₂_map_left_iff] at hread
    exact hread
  · intro others
    rw [document_csv_inj, map_cells_eq_iff]

end KnxExport.Listing
