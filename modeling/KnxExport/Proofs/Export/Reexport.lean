import Mathlib.Data.List.DropRight
import KnxExport.Csv.Writer
import KnxExport.Proofs.DatapointType
import KnxExport.Proofs.Export.Outcome
import KnxExport.Proofs.Name

/-!
# Exports that are written anew

What an export has given can be written as an export again, with the floor back in front of the
label and no more than the cells that matter. Not every record survives that, as a label may begin
with a mark that is then taken for the floor's, and blanks around a description are lost; `Normal`
says which records do. Reading gives no others.

Main statement: `ingest_again`. It rests on `normal_of_ingest`, what has been read is normal, and on
`ingest_document`, what is normal is read back.
-/

namespace KnxExport

/-! ## The parts of a record -/

/-- Text that has no blanks around it any more has none to lose. -/
theorem Text.trim_trim (text : String) : Text.trim (Text.trim text) = Text.trim text := by
  have hstart : ∀ {front whole : List Char}, front <+: whole →
      whole.dropWhile Text.isBlank = whole → front.dropWhile Text.isBlank = front := by
    rintro (_ | ⟨c, front⟩) whole ⟨rest, rfl⟩ hwhole
    · rfl
    · simpa [List.dropWhile_eq_self_iff] using hwhole
  have htrim : ∀ chars, Text.trimBlanks chars =
      (chars.dropWhile Text.isBlank).rdropWhile Text.isBlank := fun _ => rfl
  rw [Text.trim, Text.trim, String.toList_ofList, htrim, htrim,
    hstart (List.rdropWhile_prefix _ _) (List.dropWhile_idempotent _ _), List.rdropWhile_idempotent]

namespace Name

/-- No floor's mark turns a label into the first cell of the header. -/
theorem text_ofLabel_ne {label : String} (h : label ≠ Export.headerLabel) (a : Address) :
    (ofLabel label a).text ≠ Export.headerLabel := by
  unfold ofLabel
  cases Floor.ofAddress? a with
  | none => simpa [text, mark] using h
  | some floor =>
    intro hsame
    have hhead := congrArg (fun text : String => text.toList.head?) hsame
    cases floor <;> simp [text, mark, Floor.mark, Export.headerLabel] at hhead

end Name

namespace DatapointType

/-- The cell that stands for a datapoint type. -/
def cell : DatapointType → String
  | .known n => "DPT-" ++ Text.decimal n
  | .unknown => ""

/-- A datapoint type is read back from its cell. -/
theorem parse_cell (d : DatapointType) : parse d.cell = d := by
  cases d with
  | unknown => rfl
  | known n =>
    have hnumber := Text.denotes_decimal n
    have hparts : Parts (cell (.known n)) ['D', 'P', 'T'] (Text.decimal n).toList [] :=
      { toList := by simp [cell]
        family := by decide
        number := hnumber.not_mem rfl
        rest := .inl rfl }
    exact parse_eq_known_iff.mpr ⟨_, _, _, hparts, hnumber⟩

end DatapointType

/-! ## Records that are read back -/

/-- The record is one that a row can describe. -/
structure GroupAddress.Normal (g : GroupAddress) : Prop where
  /-- The floor is that of the address, and only the floor's own mark is stripped. -/
  name : Name.ofLabel g.name.text g.address = g.name
  /-- The row is not taken for the header. -/
  text : g.name.text ≠ Export.headerLabel
  /-- There are no blanks around the description. -/
  description : Text.trim g.description = g.description
  /-- The kind is that of the address. -/
  kind : Kind.ofAddress g.address = g.kind

namespace Export

/-- The cells of a row that describes the record. -/
def cells (g : GroupAddress) : List String :=
  [g.name.text, g.address.text, "", "", g.description, g.datapoint.cell]

/-- An export of the records: the header, of any width, and a row for each record. -/
def document (header : List String) (addresses : List GroupAddress) : String :=
  String.join (((headerLabel :: header) :: addresses.map cells).map Csv.writeRecord)

/-- What a row describes is normal. -/
theorem TextsFit.normal {texts : List String} {g : GroupAddress} (h : TextsFit texts (.leaf g)) :
    g.Normal := by
  cases h with
  | leaf hheader hparent hparse =>
    exact
      { name := Name.ofLabel_text _ _
        text := Name.text_ofLabel_ne hheader _
        description := Text.trim_trim _
        kind := rfl }

/-- The cells of a normal record describe it. -/
theorem textsFit_cells {g : GroupAddress} (h : g.Normal) : TextsFit (cells g) (.leaf g) := by
  have hparse := Address.parse_text g.address
  have hfits := @TextsFit.leaf g.name.text g.address.text "" "" g.description g.datapoint.cell []
    g.address h.text (Address.not_mem_of_parse_ok hparse) hparse
  rwa [h.name, h.description, h.kind, DatapointType.parse_cell] at hfits

/-! ## Exports that are read back -/

/-- Rows describe normal records only. -/
theorem normal_of_fits {rows : List (List Csv.Cell)} {classes : List Class}
    (h : List.Forall₂ Fits rows classes) : ∀ g ∈ classes.filterMap Class.leaf?, g.Normal := by
  induction h with
  | nil => simp
  | @cons row c rows classes hrow _ ih =>
    cases hrow with
    | badUtf8 hbad => exact ih
    | texts htexts hclass =>
      cases c with
      | leaf g => exact List.forall_mem_cons.mpr ⟨hclass.normal, ih⟩
      | _ => exact ih

/-- What an export gives is normal. -/
theorem normal_of_ingest {input : List UInt8} {addresses : List GroupAddress}
    (h : ingest input = .ok addresses) : ∀ g ∈ addresses, g.Normal := by
  obtain ⟨classes, hfits, hinput⟩ := exists_classes input
  rw [hinput, resultOf_eq_ok_iff] at h
  rw [h.2]
  exact normal_of_fits hfits

/-- The rows of normal records describe them one after the other. -/
theorem forall₂_fits_cells {addresses : List GroupAddress} (h : ∀ g ∈ addresses, g.Normal) :
    List.Forall₂ Fits ((addresses.map cells).map fun texts => texts.map Utf8.encode)
      (addresses.map Class.leaf) := by
  rw [List.forall₂_map_left_iff, List.forall₂_map_left_iff, List.forall₂_map_right_iff]
  exact List.forall₂_same.mpr fun g hg => .texts (decoded_map_encode _) (textsFit_cells (h g hg))

/-- An export of normal records gives these records. -/
theorem ingest_document {addresses : List GroupAddress} (h : ∀ g ∈ addresses, g.Normal)
    (header : List String) : ingest (Utf8.encode (document header addresses)) = .ok addresses := by
  have hlabel : headerLabel.toList = ['G', 'r', 'o', 'u', 'p', ' ', 'n', 'a', 'm', 'e'] := by
    simp [headerLabel]
  have hrows : ∀ texts ∈ addresses.map cells, texts ≠ [] := by simp [cells]
  have hheader : Fits ((headerLabel :: header).map Utf8.encode) .header :=
    .texts (decoded_map_encode _) (.header rfl)
  have hfits := List.Forall₂.cons hheader (forall₂_fits_cells h)
  have hinput : ingest (Utf8.encode (document header addresses)) =
      resultOf 1 (.header :: addresses.map Class.leaf) := by
    show resultFrom 1 (records _) = _
    rw [document, records_writeRecords hlabel (by decide) hrows]
    exact resultFrom_of_fits hfits 1
  rw [hinput, resultOf_eq_ok_iff]
  constructor
  · simp [Class.IsFault]
  · have hleaf : Class.leaf? ∘ Class.leaf = some := rfl
    rw [List.filterMap_cons_none rfl, List.filterMap_map, hleaf, List.filterMap_some]

/-- The normal records are those that exports give. -/
theorem normal_iff {g : GroupAddress} : g.Normal ↔ ∃ input, ingest input = .ok [g] := by
  constructor
  · intro h
    exact ⟨_, ingest_document (by simpa using h) []⟩
  · rintro ⟨input, h⟩
    exact normal_of_ingest h g (by simp)

/-- **Reading is stable.** What an export has given is given again by the export that is written of
it: the same names, with floor and label apart as before, descriptions, kinds, addresses and
datapoint types, in the same order. -/
theorem ingest_again {input : List UInt8} {addresses : List GroupAddress}
    (h : ingest input = .ok addresses) (header : List String) :
    ingest (Utf8.encode (document header addresses)) = .ok addresses :=
  ingest_document (normal_of_ingest h) header

/-- An export with a mark behind the floor's mark, a label that is nothing but the mark, one that
without its mark would be the header, quotes and breaks in descriptions, and datapoint types of all
sorts. -/
theorem ingest_again_marks :
    ingest (Utf8.encode ("Group name\r\nLF LF x,1/0/1,,,\" a\"\",\r\nb\n\",DPST-5-1\n" ++
        "EXT ,2/3/0,,,,DPT\nUF Group name,06/1/9,,,,-7")) =
      .ok [⟨⟨some .lower, "LF x"⟩, "a\",\r\nb", .switch, ⟨1, 0, 1⟩, .known 5⟩,
        ⟨⟨some .exterior, ""⟩, "", .dimmer, ⟨2, 3, 0⟩, .unknown⟩,
        ⟨⟨some .upper, "Group name"⟩, "", .control, ⟨6, 1, 9⟩, .known 7⟩] ∧
    ingest (Utf8.encode (document ["Address"]
        [⟨⟨some .lower, "LF x"⟩, "a\",\r\nb", .switch, ⟨1, 0, 1⟩, .known 5⟩,
          ⟨⟨some .exterior, ""⟩, "", .dimmer, ⟨2, 3, 0⟩, .unknown⟩,
          ⟨⟨some .upper, "Group name"⟩, "", .control, ⟨6, 1, 9⟩, .known 7⟩])) =
      .ok [⟨⟨some .lower, "LF x"⟩, "a\",\r\nb", .switch, ⟨1, 0, 1⟩, .known 5⟩,
        ⟨⟨some .exterior, ""⟩, "", .dimmer, ⟨2, 3, 0⟩, .unknown⟩,
        ⟨⟨some .upper, "Group name"⟩, "", .control, ⟨6, 1, 9⟩, .known 7⟩] := by
  refine ⟨?read, ingest_again ?read ["Address"]⟩
  show resultFrom 1 (records _) = _
  rw [records_eq_table]
  rfl

end Export

end KnxExport
