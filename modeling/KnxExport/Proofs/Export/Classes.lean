import Mathlib.Data.List.Forall2
import KnxExport.Export
import KnxExport.Proofs.Address
import KnxExport.Proofs.Text.Utf8

/-!
# What a record of an export is

Every record of an export belongs to one class, the first that fits: a cell is not UTF-8, the
header, too few cells, the row of a main or middle group, no address where one is due, a group
address. `Fits` says so without the functions that read rows.

Main statements: `exists_fits` and `Fits.unique`, every record has one class; `readRow_of_fits`, the
class decides what reading the record gives.
-/

namespace KnxExport.Export

/-! ## Classes -/

/-- What a record is. -/
inductive Class where
  /-- It has a cell that is not UTF-8: the first such column and the fault of its cell. -/
  | badUtf8 (column : Nat) (fault : Utf8.Fault)
  /-- It is the header. -/
  | header
  /-- It has too few cells. -/
  | short (width : Nat)
  /-- It is the row of a main or middle group. -/
  | parent
  /-- Its address cannot be read. -/
  | badAddress (fault : Address.Fault)
  /-- It describes a group address. -/
  | leaf (record : GroupAddress)

/-- The cells are the texts in UTF-8. -/
def Decoded (cells : List Csv.Cell) (texts : List String) : Prop :=
  List.Forall₂ (fun cell text => Utf8.decode cell = .ok text) cells texts

/-- The first cell that is not UTF-8 stands in the column and has the fault. -/
def FirstBad (cells : List Csv.Cell) (column : Nat) (fault : Utf8.Fault) : Prop :=
  ∃ front cell rest texts, cells = front ++ cell :: rest ∧ front.length = column ∧
    Decoded front texts ∧ Utf8.decode cell = .error fault

/-- The class of a record whose cells are UTF-8, by their texts. -/
inductive TextsFit : List String → Class → Prop where
  | header {texts : List String} (h : texts.head? = some headerLabel) : TextsFit texts .header
  | short {texts : List String} (hheader : texts.head? ≠ some headerLabel)
      (h : texts.length < minColumns) : TextsFit texts (.short texts.length)
  | parent {label address third fourth description datapoint : String} {rest : List String}
      (hheader : label ≠ headerLabel) (h : '-' ∈ address.toList) :
      TextsFit (label :: address :: third :: fourth :: description :: datapoint :: rest) .parent
  | badAddress {label address third fourth description datapoint : String} {rest : List String}
      {fault : Address.Fault} (hheader : label ≠ headerLabel) (hparent : '-' ∉ address.toList)
      (h : Address.parse address = .error fault) :
      TextsFit (label :: address :: third :: fourth :: description :: datapoint :: rest)
        (.badAddress fault)
  | leaf {label address third fourth description datapoint : String} {rest : List String}
      {a : Address} (hheader : label ≠ headerLabel) (hparent : '-' ∉ address.toList)
      (h : Address.parse address = .ok a) :
      TextsFit (label :: address :: third :: fourth :: description :: datapoint :: rest)
        (.leaf
          { name := Name.ofLabel label a
            description := Text.trim description
            kind := Kind.ofAddress a
            address := a
            datapoint := DatapointType.parse datapoint })

/-- The class of a record. -/
inductive Fits : List Csv.Cell → Class → Prop where
  | badUtf8 {cells : List Csv.Cell} {column : Nat} {fault : Utf8.Fault}
      (h : FirstBad cells column fault) : Fits cells (.badUtf8 column fault)
  | texts {cells : List Csv.Cell} {texts : List String} {c : Class} (h : Decoded cells texts)
      (hclass : TextsFit texts c) : Fits cells c

namespace Class

/-- The fault that a record of the class is in the row with the given number. -/
def fault? (row : Nat) : Class → Option Fault
  | badUtf8 column fault => some (.invalidUtf8 row column fault)
  | short width => some (.tooFewColumns row width)
  | badAddress fault => some (.invalidAddress row fault)
  | _ => none

/-- A record of the class is a fault. -/
def IsFault : Class → Prop
  | badUtf8 _ _ => True
  | short _ => True
  | badAddress _ => True
  | _ => False

/-- The group address of a record that describes one. -/
def leaf? : Class → Option GroupAddress
  | leaf record => some record
  | _ => none

/-- Whether there is a fault does not depend on the row. -/
theorem fault?_eq_none_iff {c : Class} (row : Nat) : c.fault? row = none ↔ ¬ c.IsFault := by
  cases c <;> simp [fault?, IsFault]

end Class

/-! ## Every record has one class -/

/-- Cells that are UTF-8 are decoded as their texts. -/
theorem decodeCells_of_decoded {cells : List Csv.Cell} {texts : List String}
    (h : Decoded cells texts) (row column : Nat) : decodeCells row column cells = .ok texts := by
  induction h generalizing column with
  | nil => rfl
  | cons hcell _ ih =>
    rw [decodeCells, hcell]
    simp only
    rw [ih]
    rfl

/-- The bytes of texts are decoded as these texts. -/
theorem decoded_map_encode (texts : List String) : Decoded (texts.map Utf8.encode) texts := by
  induction texts with
  | nil => exact .nil
  | cons text texts ih => exact .cons (Utf8.decode_encode text) ih

/-- The first cell that is not UTF-8 is reported, with its column. -/
theorem decodeCells_of_firstBad {cells : List Csv.Cell} {column : Nat} {fault : Utf8.Fault}
    (h : FirstBad cells column fault) (row start : Nat) :
    decodeCells row start cells = .error (.invalidUtf8 row (start + column) fault) := by
  obtain ⟨front, cell, rest, texts, rfl, rfl, hfront, hcell⟩ := h
  induction hfront generalizing start with
  | nil =>
    rw [List.nil_append, decodeCells, hcell]
    rfl
  | @cons first text front texts hfirst _ ih =>
    have hcolumn : start + (first :: front).length = start + 1 + front.length := by
      rw [List.length_cons]
      omega
    rw [List.cons_append, decodeCells, hfirst, hcolumn]
    simp only
    rw [ih]
    rfl

/-- Cells have one sequence of texts. -/
theorem Decoded.unique {cells : List Csv.Cell} {texts others : List String}
    (h : Decoded cells texts) (hothers : Decoded cells others) : texts = others := by
  have hsame := decodeCells_of_decoded h 0 0
  rw [decodeCells_of_decoded hothers] at hsame
  exact (Except.ok.inj hsame).symm

/-- Cells of which one is not UTF-8 have no texts. -/
theorem FirstBad.not_decoded {cells : List Csv.Cell} {column : Nat} {fault : Utf8.Fault}
    (h : FirstBad cells column fault) (texts : List String) : ¬ Decoded cells texts := by
  intro htexts
  have hsame := decodeCells_of_firstBad h 0 0
  rw [decodeCells_of_decoded htexts] at hsame
  cases hsame

/-- Cells are UTF-8, or one of them is the first that is not. -/
theorem decoded_or_firstBad (cells : List Csv.Cell) :
    (∃ texts, Decoded cells texts) ∨ ∃ column fault, FirstBad cells column fault := by
  induction cells with
  | nil => exact .inl ⟨[], .nil⟩
  | cons cell cells ih =>
    cases hcell : Utf8.decode cell with
    | error fault => exact .inr ⟨0, fault, [], cell, cells, [], rfl, rfl, .nil, hcell⟩
    | ok text =>
      obtain ⟨texts, htexts⟩ | ⟨_, fault, front, bad, rest, texts, rfl, rfl, hfront, hbad⟩ := ih
      · exact .inl ⟨text :: texts, .cons hcell htexts⟩
      · exact .inr ⟨front.length + 1, fault, cell :: front, bad, rest, text :: texts, rfl, rfl,
          .cons hcell hfront, hbad⟩

/-- A row of full width has the cells that matter. -/
theorem exists_eq_cons_of_minColumns_le :
    (texts : List String) → minColumns ≤ texts.length →
      ∃ label address third fourth description datapoint rest,
        texts = label :: address :: third :: fourth :: description :: datapoint :: rest
  | label :: address :: third :: fourth :: description :: datapoint :: rest, _ =>
    ⟨label, address, third, fourth, description, datapoint, rest, rfl⟩
  | [], h | [_], h | [_, _], h | [_, _, _], h | [_, _, _, _], h | [_, _, _, _, _], h =>
    absurd h (by simp [minColumns])

/-- Texts have a class. -/
theorem exists_textsFit (texts : List String) : ∃ c, TextsFit texts c := by
  by_cases hheader : texts.head? = some headerLabel
  · exact ⟨.header, .header hheader⟩
  by_cases hshort : texts.length < minColumns
  · exact ⟨_, .short hheader hshort⟩
  obtain ⟨label, address, third, fourth, description, datapoint, rest, rfl⟩ :=
    exists_eq_cons_of_minColumns_le texts (by omega)
  have hlabel : label ≠ headerLabel := by simpa using hheader
  by_cases hparent : '-' ∈ address.toList
  · exact ⟨.parent, .parent hlabel hparent⟩
  cases hparse : Address.parse address with
  | error fault => exact ⟨_, .badAddress hlabel hparent hparse⟩
  | ok a => exact ⟨_, .leaf hlabel hparent hparse⟩

/-- Every record has a class. -/
theorem exists_fits (cells : List Csv.Cell) : ∃ c, Fits cells c := by
  obtain ⟨texts, htexts⟩ | ⟨column, fault, hbad⟩ := decoded_or_firstBad cells
  · obtain ⟨c, hc⟩ := exists_textsFit texts
    exact ⟨c, .texts htexts hc⟩
  · exact ⟨_, .badUtf8 hbad⟩

/-- Texts have no second class. -/
theorem TextsFit.unique {texts : List String} {c d : Class} (hc : TextsFit texts c)
    (hd : TextsFit texts d) : c = d := by
  cases hc <;> cases hd <;> simp_all [minColumns]
  -- What is left are rows with the cells that matter, said to be too short.
  all_goals omega

/-- No record has a second class. -/
theorem Fits.unique {cells : List Csv.Cell} {c d : Class} (hc : Fits cells c) (hd : Fits cells d) :
    c = d := by
  rcases hc with hbad | ⟨htexts, hc⟩
  · rcases hd with hbad' | ⟨htexts', hd⟩
    · have hsame := decodeCells_of_firstBad hbad 0 0
      rw [decodeCells_of_firstBad hbad', Nat.zero_add, Nat.zero_add] at hsame
      cases hsame
      rfl
    · exact absurd htexts' (hbad.not_decoded _)
  · rcases hd with hbad' | ⟨htexts', hd⟩
    · exact absurd htexts (hbad'.not_decoded _)
    · obtain rfl := htexts.unique htexts'
      exact hc.unique hd

/-- The class of a cell that is reported. -/
theorem Class.eq_badUtf8_of_fault? {c : Class} {n row column : Nat} {fault : Utf8.Fault}
    (h : c.fault? n = some (.invalidUtf8 row column fault)) :
    row = n ∧ c = .badUtf8 column fault := by
  cases c <;> cases h
  exact ⟨rfl, rfl⟩

/-- A record of the class of such a cell has it. -/
theorem Fits.firstBad {cells : List Csv.Cell} {column : Nat} {fault : Utf8.Fault}
    (h : Fits cells (.badUtf8 column fault)) : FirstBad cells column fault := by
  cases h with
  | badUtf8 h => exact h
  | texts _ hclass => cases hclass

/-- The cells of a record without a fault are texts. -/
theorem Fits.exists_decoded {cells : List Csv.Cell} {c : Class} (h : Fits cells c)
    (hc : ¬ c.IsFault) : ∃ texts, Decoded cells texts := by
  cases h with
  | badUtf8 _ => exact absurd trivial hc
  | texts h _ => exact ⟨_, h⟩

/-- Records have one list of classes. -/
theorem exists_forall₂_fits_iff (rows : List (List Csv.Cell)) :
    ∃ classes, ∀ others, List.Forall₂ Fits rows others ↔ others = classes := by
  induction rows with
  | nil => exact ⟨[], fun others => List.forall₂_nil_left_iff⟩
  | cons cells rows ih =>
    obtain ⟨c, hc⟩ := exists_fits cells
    obtain ⟨classes, hclasses⟩ := ih
    refine ⟨c :: classes, ?_⟩
    intro others
    constructor
    · rintro (_ | ⟨hd, hrest⟩)
      rw [hd.unique hc, (hclasses _).mp hrest]
    · rintro rfl
      exact .cons hc ((hclasses classes).mpr rfl)

/-- An address that can be read is not that of a main or middle group. -/
theorem not_fits_parent_of_parse_ok {cells : List Csv.Cell} {texts : List String}
    {address : String} {a : Address} (htexts : Decoded cells texts)
    (haddress : texts[1]? = some address) (hparse : Address.parse address = .ok a) :
    ¬ Fits cells .parent := by
  intro hparent
  cases hparent with
  | texts htexts' hclass =>
    obtain rfl := htexts.unique htexts'
    cases hclass with
    | parent hheader hdash =>
      obtain rfl : _ = address := by simpa using haddress
      exact Address.not_mem_of_parse_ok hparse hdash

/-! ## What reading a record gives -/

/-- The texts of a row are read as their class says: its fault, or its group address if it has
one. -/
theorem readTexts_of_textsFit {texts : List String} {c : Class} (h : TextsFit texts c) (row : Nat) :
    Row.leaf? <$> readTexts row texts =
      match c.fault? row with
      | some fault => .error fault
      | none => .ok c.leaf? := by
  unfold readTexts
  cases h with
  | header h =>
    rw [if_pos h]
    rfl
  | short hheader h =>
    rw [if_neg hheader]
    split
    · simp only [List.length_cons, minColumns] at h
      omega
    · rfl
  | parent hheader h =>
    rw [if_neg (by simpa using hheader)]
    simp only [Address.isParent_iff, h, if_true]
    rfl
  | badAddress hheader hparent h =>
    rw [if_neg (by simpa using hheader)]
    simp only [Address.isParent_iff, hparent, if_false, readLeaf, h]
    rfl
  | leaf hheader hparent h =>
    rw [if_neg (by simpa using hheader)]
    simp only [Address.isParent_iff, hparent, if_false, readLeaf, h]
    rfl

/-- A record is read as its class says. -/
theorem readRow_of_fits {cells : List Csv.Cell} {c : Class} (h : Fits cells c) (row : Nat) :
    Row.leaf? <$> readRow row cells =
      match c.fault? row with
      | some fault => .error fault
      | none => .ok c.leaf? := by
  unfold readRow
  rcases h with hbad | ⟨htexts, hclass⟩
  · rw [decodeCells_of_firstBad hbad, Nat.zero_add]
    rfl
  · rw [decodeCells_of_decoded htexts]
    exact readTexts_of_textsFit hclass row

end KnxExport.Export
