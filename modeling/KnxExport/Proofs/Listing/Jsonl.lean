import KnxExport.Proofs.Json.Parser
import KnxExport.Proofs.Listing.Csv

/-!
# A listing as JSON is read back

A listing as JSON has one line for each record, and the line is an object with what is shown of the
record, whatever characters its texts have. No control is left in a line, so that no text of a
record splits one. The listing of comma separated values says the same of each record.

Main statement: `parse_document_jsonl`. It rests on `parse_object` for the objects, on
`HasNoControl.object` for the lines and on `agrees_cells` for what both listings say.
-/

namespace KnxExport.Listing

open Json (Value IsScalar IsMember)

/-! ## Lines -/

/-- No control is in a text. -/
def HasNoControl (text : String) : Prop :=
  ∀ c ∈ text.toList, 0x20 ≤ c.toNat

instance (text : String) : Decidable (HasNoControl text) :=
  decidable_of_iff (text.toList.all fun c => 0x20 ≤ c.toNat) (by simp [HasNoControl])

namespace HasNoControl

theorem append {front rest : String} (hfront : HasNoControl front) (hrest : HasNoControl rest) :
    HasNoControl (front ++ rest) := by
  intro c hc
  rw [String.toList_append, List.mem_append] at hc
  exact hc.elim (hfront c) (hrest c)

theorem intercalate {sep : String} (hsep : HasNoControl sep) {texts : List String}
    (h : ∀ text ∈ texts, HasNoControl text) : HasNoControl (String.intercalate sep texts) := by
  induction texts with
  | nil => simp [HasNoControl]
  | cons text texts ih =>
    rw [List.forall_mem_cons] at h
    cases texts with
    | nil => simpa using h.1
    | cons next texts =>
      rw [String.intercalate_cons_cons]
      exact (h.1.append hsep).append (ih h.2)

/-- Every control of a text has been escaped in its string. -/
theorem jsonString (text : String) : HasNoControl (jsonString text) := by
  have hdigit : ∀ n, 0x20 ≤ (Nat.digitChar (n % 16)).toNat := by
    intro n
    have hlt : n % 16 < 16 := Nat.mod_lt _ (by decide)
    generalize n % 16 = d at hlt
    revert d
    decide
  have hescape : ∀ d, ∀ c ∈ escapeChar d, 0x20 ≤ c.toNat := by
    intro d c hc
    unfold escapeChar at hc
    split_ifs at hc with hquote hslash hback hfeed hline hreturn htab hcontrol
    iterate 7
      simp only [List.mem_cons, List.not_mem_nil, or_false] at hc
      obtain rfl | rfl := hc <;> decide
    · simp only [fourDigits, List.mem_append, List.mem_cons, List.not_mem_nil, or_false] at hc
      obtain (rfl | rfl) | rfl | rfl | rfl | rfl := hc
      · decide
      · decide
      all_goals exact hdigit _
    · obtain rfl := List.mem_singleton.mp hc
      omega
  intro c hc
  rw [Listing.jsonString, String.toList_ofList] at hc
  simp only [List.mem_cons, List.mem_append, List.mem_flatMap, List.not_mem_nil, or_false] at hc
  obtain rfl | ⟨d, -, hc⟩ | rfl := hc
  · decide
  · exact hescape d c hc
  · decide

theorem jsonDatapoint (d : DatapointType) : HasNoControl (jsonDatapoint d) := by
  cases d with
  | known n =>
    intro c hc
    by_contra hcontrol
    have hnone : ∀ k < 0x20, (Char.ofNat k).isDigit = false := by decide
    have hdigit := Text.isDigit_of_mem_decimal c hc
    rw [← Char.ofNat_toNat c, hnone c.toNat (by omega)] at hdigit
    cases hdigit
  | unknown => decide

/-- The object of a record is a line of its own. -/
theorem object (g : GroupAddress) : HasNoControl (object g) := by
  have hmembers : ∀ member ∈ members g, HasNoControl member.2 := by
    simp [members, jsonString, jsonDatapoint]
  have hpair : ∀ member ∈ members g,
      HasNoControl (Listing.jsonString member.1 ++ ":" ++ member.2) := by
    intro member hmember
    exact ((jsonString member.1).append (by decide)).append (hmembers member hmember)
  have hcomma : HasNoControl "," := by decide
  have hbrace : HasNoControl "\x7b" := by decide
  have hpairs := intercalate hcomma (List.forall_mem_map.mpr hpair)
  exact (hbrace.append hpairs).append (by decide)

end HasNoControl

/-- A listing as JSON is the objects of its records, each on a line. -/
theorem document_jsonl (records : List GroupAddress) :
    document .jsonl records = Text.unlines (records.map object) := by
  rw [document, textOf, pieces]
  simp only [opening, closing, List.nil_append, List.append_nil]
  induction records with
  | nil => rfl
  | cons g records ih =>
    rw [List.flatMap_cons, List.map_append, String.join_append, ih]
    simp [Text.unlines, adding, Piece.text]

/-! ## Objects -/

/-- A datapoint type as a JSON value. -/
def datapointValue : DatapointType → Value
  | .known n => .number (n.toNat : ℚ)
  | .unknown => .null

/-- What is shown of a record, by the names of an object's members. -/
def memberValues (g : GroupAddress) : List (String × Value) :=
  [("address", .string g.address.text), ("kind", .string g.kind.label),
    ("name", .string g.displayName), ("datapoint_type", datapointValue g.datapoint),
    ("description", .string g.description)]

/-- A datapoint type is read as it was written. -/
theorem isScalar_jsonDatapoint (d : DatapointType) :
    IsScalar (jsonDatapoint d).toList (datapointValue d) := by
  cases d with
  | known n => exact Json.isScalar_decimal n
  | unknown => exact Json.isScalar_null

/-- The object of a record says what is shown of the record. -/
theorem parse_object (g : GroupAddress) :
    Json.parse (object g).toList = some (.object (memberValues g)) := by
  have hmembers : List.Forall₂ IsMember (members g) (memberValues g) := by
    refine .cons ⟨rfl, Json.isScalar_jsonString _⟩ (.cons ⟨rfl, Json.isScalar_jsonString _⟩
      (.cons ⟨rfl, Json.isScalar_jsonString _⟩ (.cons ⟨rfl, isScalar_jsonDatapoint _⟩
        (.cons ⟨rfl, Json.isScalar_jsonString _⟩ .nil))))
  exact Json.parse_object hmembers

/-! ## Both listings -/

/-- An object says the same as the row of a record: its texts are the cells, and there is no number
exactly where the row says so. -/
def Agrees (row : List String) (value : Value) : Prop :=
  ∃ address kind name datapoint description number,
    row = [address, kind, name, datapoint, description] ∧
    value = .object [("address", .string address), ("kind", .string kind), ("name", .string name),
      ("datapoint_type", number), ("description", .string description)] ∧
    (number = .null ↔ datapoint = "unknown") ∧
    ∀ n : Nat, number = .number (n : ℚ) ↔ datapoint = "DPT_" ++ toString n

/-- Only the unknown type is written as null. -/
theorem datapointValue_eq_null_iff {d : DatapointType} :
    datapointValue d = .null ↔ datapointText d = "unknown" := by
  constructor
  · intro h
    cases d with
    | known n => cases h
    | unknown => rfl
  · intro h
    obtain rfl : d = .unknown := datapointText_inj h
    rfl

/-- A known type is written as its number. -/
theorem datapointValue_eq_number_iff {d : DatapointType} {n : Nat} :
    datapointValue d = .number (n : ℚ) ↔ datapointText d = "DPT_" ++ toString n := by
  cases d with
  | known m =>
    have hnumber : datapointValue (.known m) = .number (n : ℚ) ↔ m.toNat = n := by
      simp [datapointValue]
    rw [hnumber, datapointText, DatapointType.numberTag, String.append_right_inj, Text.decimal,
      Nat.toString_eq_ofList_toDigits]
    constructor
    · rintro rfl
      rfl
    · intro h
      have hdigits : Nat.toDigits 10 m.toNat = Nat.toDigits 10 n := String.ofList_injective h
      have hvalue := Nat.ofDigitChars_ten_toDigits (n := m.toNat)
      rw [hdigits, Nat.ofDigitChars_ten_toDigits] at hvalue
      exact hvalue.symm
  | unknown =>
    have hvalue : datapointValue .unknown ≠ .number (n : ℚ) := by
      intro h
      cases h
    have htext : datapointText .unknown ≠ "DPT_" ++ toString n := by
      intro h
      have hchars := congrArg String.toList h
      simp [datapointText] at hchars
    exact iff_of_false hvalue htext

/-- The object of a record says the same as its row. -/
theorem agrees_cells (g : GroupAddress) : Agrees (cells g) (.object (memberValues g)) :=
  ⟨_, _, _, _, _, _, rfl, rfl, datapointValue_eq_null_iff, fun _ => datapointValue_eq_number_iff⟩

/-- **A listing as JSON loses nothing.** It is cut at its line feeds into one line for each record
and nothing after the last one. No other control is in a line, and the line is a JSON object with
the five things that are shown of its record. The listing of comma separated values has a row for
each line that says the same. -/
theorem parse_document_jsonl (records : List GroupAddress) :
    ∃ lines rows, (document .jsonl records).toList.splitOn '\n' = lines ++ [[]] ∧
      List.Forall₂ (fun line g => (∀ c ∈ line, 0x20 ≤ c.toNat) ∧
        Json.parse line = some (.object
          [("address", .string g.address.text), ("kind", .string g.kind.label),
            ("name", .string g.displayName), ("datapoint_type", datapointValue g.datapoint),
            ("description", .string g.description)])) lines records ∧
      Export.records (Utf8.encode (document .csv records)) =
        (headers :: rows).map (fun texts => texts.map Utf8.encode) ∧
      List.Forall₂ (fun line row => ∃ value, Json.parse line = some value ∧ Agrees row value)
        lines rows := by
  have hfeed : ∀ line ∈ records.map object, '\n' ∉ line.toList := by
    intro line hline hmem
    obtain ⟨g, -, rfl⟩ := List.mem_map.mp hline
    exact absurd (HasNoControl.object g _ hmem) (by decide)
  refine ⟨(records.map object).map String.toList, records.map cells, ?_, ?_,
    records_document_csv records, ?_⟩
  · rw [document_jsonl]
    exact Text.splitOn_unlines hfeed
  · rw [List.map_map, List.forall₂_map_left_iff]
    exact List.forall₂_same.mpr fun g _ => ⟨HasNoControl.object g, parse_object g⟩
  · rw [List.map_map, List.forall₂_map_left_iff, List.forall₂_map_right_iff]
    exact List.forall₂_same.mpr fun g _ => ⟨_, parse_object g, agrees_cells g⟩

end KnxExport.Listing
