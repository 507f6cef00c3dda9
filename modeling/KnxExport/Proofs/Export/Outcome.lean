import KnxExport.Proofs.Export.Classes
import KnxExport.Proofs.Export.Rows

/-!
# What an export gives

The classes of its records decide what an export gives, and the records up to the first fault are
all that count, without headers and the rows of main and middle groups. `resultOf` says so without
the functions that read.

Main statement: `ingest_by_classes`. It rests on `resultFrom_of_fits`, by induction over the
records, and on what there is to say about `resultOf`.
-/

namespace KnxExport.Export

/-! ## Classes of all records -/

/-- The first fault of records of the classes, the first of which has the number `row`. -/
def firstFault? (row : Nat) : List Class → Option Fault
  | [] => none
  | c :: rest =>
    match c.fault? row with
    | some fault => some fault
    | none => firstFault? (row + 1) rest

/-- There is no first fault where there is none. -/
theorem firstFault?_eq_none_iff {row : Nat} {classes : List Class} :
    firstFault? row classes = none ↔ ∀ c ∈ classes, ¬ c.IsFault := by
  induction classes generalizing row with
  | nil => simp [firstFault?]
  | cons c rest ih =>
    rw [List.forall_mem_cons, firstFault?, ← Class.fault?_eq_none_iff row]
    cases c.fault? row with
    | some fault => simp
    | none => simpa using ih

/-- The first fault is the one before which there is none. -/
theorem firstFault?_eq_some_iff {row : Nat} {classes : List Class} {fault : Fault} :
    firstFault? row classes = some fault ↔
      ∃ i c, classes[i]? = some c ∧ c.fault? (row + i) = some fault ∧
        ∀ d ∈ classes.take i, ¬ d.IsFault := by
  induction classes generalizing row with
  | nil => simp [firstFault?]
  | cons c rest ih =>
    rw [firstFault?]
    cases hc : c.fault? row with
    | some first =>
      constructor
      · rintro ⟨rfl⟩
        exact ⟨0, c, rfl, hc, by simp⟩
      · rintro ⟨i, d, hd, hfault, hbefore⟩
        cases i with
        | zero =>
          obtain rfl : c = d := by simpa using hd
          exact hc.symm.trans hfault
        | succ i =>
          have hnone := (Class.fault?_eq_none_iff row).mpr (hbefore c (by simp))
          rw [hc] at hnone
          cases hnone
    | none =>
      have hnone := (Class.fault?_eq_none_iff row).mp hc
      simp only
      rw [ih]
      constructor
      · rintro ⟨i, d, hd, hfault, hbefore⟩
        refine ⟨i + 1, d, hd, ?_, ?_⟩
        · rwa [Nat.add_right_comm] at hfault
        · rw [List.take_succ_cons, List.forall_mem_cons]
          exact ⟨hnone, hbefore⟩
      · rintro ⟨i, d, hd, hfault, hbefore⟩
        cases i with
        | zero =>
          obtain rfl : c = d := by simpa using hd
          exact absurd (hc.symm.trans hfault) (by simp)
        | succ i =>
          rw [List.take_succ_cons, List.forall_mem_cons] at hbefore
          refine ⟨i, d, hd, ?_, hbefore.2⟩
          rwa [Nat.add_right_comm]

/-- What records of the classes give, the first of which has the number `row`: the first fault, or
one group address for every record that describes one. -/
def resultOf (row : Nat) (classes : List Class) : Except Fault (List GroupAddress) :=
  match firstFault? row classes with
  | some fault => .error fault
  | none => .ok (classes.filterMap Class.leaf?)

/-- Group addresses are what records without a fault give. -/
theorem resultOf_eq_ok_iff {row : Nat} {classes : List Class} {addresses : List GroupAddress} :
    resultOf row classes = .ok addresses ↔
      (∀ c ∈ classes, ¬ c.IsFault) ∧ addresses = classes.filterMap Class.leaf? := by
  rw [← firstFault?_eq_none_iff, eq_comm (a := addresses)]
  unfold resultOf
  cases firstFault? row classes with
  | some fault => simp
  | none => simp

/-- A fault is the first that there is. -/
theorem resultOf_eq_error_iff {row : Nat} {classes : List Class} {fault : Fault} :
    resultOf row classes = .error fault ↔ firstFault? row classes = some fault := by
  unfold resultOf
  cases firstFault? row classes with
  | some first => simp
  | none => simp

/-- Rows are read as their classes say. -/
theorem resultFrom_of_fits {rows : List (List Csv.Cell)} {classes : List Class}
    (h : List.Forall₂ Fits rows classes) (row : Nat) :
    resultFrom row rows = resultOf row classes := by
  induction h generalizing row with
  | nil => rfl
  | @cons cells c rows classes hcells _ ih =>
    rw [resultFrom_cons, readRow_of_fits hcells, resultOf, firstFault?]
    cases c.fault? row with
    | some fault => rfl
    | none =>
      simp only
      rw [ih, List.filterMap_cons, resultOf]
      cases firstFault? (row + 1) classes with
      | some fault => rfl
      | none => cases c.leaf? <;> rfl

/-! ## Cells that are not UTF-8 -/

/-- The record in a place has the class in that place. -/
theorem exists_class_getElem? {rows : List (List Csv.Cell)} {classes : List Class} {i : Nat}
    {cells : List Csv.Cell} (h : List.Forall₂ Fits rows classes) (hcells : rows[i]? = some cells) :
    ∃ c, classes[i]? = some c ∧ Fits cells c := by
  obtain ⟨hi, rfl⟩ := List.getElem?_eq_some_iff.mp hcells
  have hclass : i < classes.length := h.length_eq ▸ hi
  exact ⟨classes[i], List.getElem?_eq_getElem hclass, h.get hi hclass⟩

/-- A cell that is reported is the first of its record that is not UTF-8, and in the records before
there is none. -/
theorem exists_record_of_resultFrom {rows : List (List Csv.Cell)} {first row column : Nat}
    {fault : Utf8.Fault} (h : resultFrom first rows = .error (.invalidUtf8 row column fault)) :
    ∃ i cells, row = first + i ∧ rows[i]? = some cells ∧ FirstBad cells column fault ∧
      ∀ before ∈ rows.take i, ∃ texts, Decoded before texts := by
  obtain ⟨classes, hclasses⟩ := exists_forall₂_fits_iff rows
  have hfits : List.Forall₂ Fits rows classes := (hclasses classes).mpr rfl
  rw [resultFrom_of_fits hfits, resultOf_eq_error_iff, firstFault?_eq_some_iff] at h
  obtain ⟨i, c, hc, hfault, hbefore⟩ := h
  obtain ⟨rfl, rfl⟩ := Class.eq_badUtf8_of_fault? hfault
  have hi : i < rows.length := hfits.length_eq ▸ (List.getElem?_eq_some_iff.mp hc).1
  obtain ⟨c, hsame, hcells⟩ := exists_class_getElem? hfits (List.getElem?_eq_getElem hi)
  obtain rfl := Option.some.inj (hc.symm.trans hsame)
  refine ⟨i, rows[i], rfl, List.getElem?_eq_getElem hi, hcells.firstBad, ?_⟩
  intro before hmem
  obtain ⟨j, hj⟩ := List.mem_iff_getElem?.mp hmem
  obtain ⟨d, hd, hfit⟩ := exists_class_getElem? (List.forall₂_take i hfits) hj
  exact hfit.exists_decoded (hbefore d (List.mem_of_getElem? hd))

/-! ## Records that do not count -/

/-- Whether records of the class have any influence: those of headers and of main and middle groups
have none. -/
def Class.counts : Class → Bool
  | header => false
  | parent => false
  | _ => true

/-- The fault, in the given row. -/
def Fault.atRow (row : Nat) : Fault → Fault
  | .tooFewColumns _ actual => .tooFewColumns row actual
  | .invalidAddress _ fault => .invalidAddress row fault
  | .invalidUtf8 _ column fault => .invalidUtf8 row column fault

/-- The row is all that depends on where a record stands. -/
theorem Class.map_atRow_fault? (c : Class) (row n : Nat) :
    (c.fault? row).map (Fault.atRow n) = c.fault? n := by
  cases c <;> rfl

/-- What does not count is no fault. -/
theorem Class.fault?_of_not_counts {c : Class} (h : c.counts = false) (row : Nat) :
    c.fault? row = none := by
  cases c <;> first | rfl | cases h

/-- What does not count describes no group address. -/
theorem Class.leaf?_of_not_counts {c : Class} (h : c.counts = false) : c.leaf? = none := by
  cases c <;> first | rfl | cases h

/-- But for its row, the first fault is that of the records that count. -/
theorem map_atRow_firstFault?_filter (classes : List Class) (row n : Nat) :
    (firstFault? row (classes.filter Class.counts)).map (Fault.atRow 0) =
      (firstFault? n classes).map (Fault.atRow 0) := by
  induction classes generalizing row n with
  | nil => rfl
  | cons c rest ih =>
    by_cases hcounts : c.counts = true
    · have hrow := c.map_atRow_fault? row 0
      have hn := c.map_atRow_fault? n 0
      rw [List.filter_cons_of_pos hcounts, firstFault?, firstFault?]
      cases hfault : c.fault? 0 with
      | some fault =>
        rw [hfault, Option.map_eq_some_iff] at hrow hn
        obtain ⟨first, hrow, rfl⟩ := hrow
        obtain ⟨second, hn, hsame⟩ := hn
        rw [hrow, hn]
        exact congrArg some hsame.symm
      | none =>
        rw [hfault, Option.map_eq_none_iff] at hrow hn
        rw [hrow, hn]
        exact ih (row + 1) (n + 1)
    · have hskipped : c.counts = false := by simpa using hcounts
      rw [List.filter_cons_of_neg hcounts, firstFault?, Class.fault?_of_not_counts hskipped]
      exact ih row (n + 1)

/-- All group addresses are those of records that count. -/
theorem filterMap_leaf?_filter (classes : List Class) :
    (classes.filter Class.counts).filterMap Class.leaf? = classes.filterMap Class.leaf? := by
  induction classes with
  | nil => rfl
  | cons c rest ih =>
    by_cases hcounts : c.counts = true
    · rw [List.filter_cons_of_pos hcounts, List.filterMap_cons, List.filterMap_cons, ih]
    · have hskipped : c.counts = false := by simpa using hcounts
      rw [List.filter_cons_of_neg hcounts, ih,
        List.filterMap_cons_none (Class.leaf?_of_not_counts hskipped)]

/-- But for the row of a fault, the result is that of the records that count. -/
theorem mapError_atRow_resultOf_filter (classes : List Class) (row n : Nat) :
    (resultOf row (classes.filter Class.counts)).mapError (Fault.atRow 0) =
      (resultOf n classes).mapError (Fault.atRow 0) := by
  have hfault := map_atRow_firstFault?_filter classes row n
  unfold resultOf
  rw [filterMap_leaf?_filter]
  cases hfirst : firstFault? n classes with
  | some fault =>
    rw [hfirst, Option.map_some, Option.map_eq_some_iff] at hfault
    obtain ⟨first, hfiltered, hsame⟩ := hfault
    rw [hfiltered]
    exact congrArg Except.error hsame
  | none =>
    rw [hfirst, Option.map_none, Option.map_eq_none_iff] at hfault
    rw [hfault]

/-! ## Exports -/

/-- An export has one class for each of its records, and gives what they say. -/
theorem exists_classes (input : List UInt8) :
    ∃ classes, List.Forall₂ Fits (records input) classes ∧ ingest input = resultOf 1 classes := by
  obtain ⟨classes, hclasses⟩ := exists_forall₂_fits_iff (records input)
  have hfits := (hclasses classes).mpr rfl
  exact ⟨classes, hfits, resultFrom_of_fits hfits 1⟩

/-- **The classes of its records decide what an export gives.** Every record has one class. There
are group addresses if and only if no record is a fault, and then one for every record that
describes one. Otherwise there is the fault of the first record that is one, with its row, and
nothing after that record has any influence. Two exports whose records differ by headers and rows of
main and middle groups only have the same result but for the row of a fault, and no record with an
address that can be read is taken for the row of a main or middle group. -/
theorem ingest_by_classes (input : List UInt8) :
    ∃ classes : List Class,
      (∀ others, List.Forall₂ Fits (records input) others ↔ others = classes) ∧
      (∀ addresses, ingest input = .ok addresses ↔
        (∀ c ∈ classes, ¬ c.IsFault) ∧ addresses = classes.filterMap Class.leaf?) ∧
      (∀ fault, ingest input = .error fault ↔
        ∃ i c, classes[i]? = some c ∧ c.fault? (i + 1) = some fault ∧
          ∀ d ∈ classes.take i, ¬ d.IsFault) ∧
      (∀ i c other, classes[i]? = some c → c.IsFault →
        (records other).take (i + 1) = (records input).take (i + 1) →
        ingest other = ingest input) ∧
      (∀ other others, List.Forall₂ Fits (records other) others →
        others.filter Class.counts = classes.filter Class.counts →
        (ingest other).mapError (Fault.atRow 0) = (ingest input).mapError (Fault.atRow 0)) ∧
      (∀ cells texts address a, Decoded cells texts → texts[1]? = some address →
        Address.parse address = .ok a → ¬ Fits cells .parent) := by
  obtain ⟨classes, hclasses⟩ := exists_forall₂_fits_iff (records input)
  have hfits : List.Forall₂ Fits (records input) classes := (hclasses classes).mpr rfl
  have hinput : ingest input = resultOf 1 classes := resultFrom_of_fits hfits 1
  refine ⟨classes, hclasses, ?_, ?_, ?_, ?_, ?_⟩
  · intro addresses
    rw [hinput]
    exact resultOf_eq_ok_iff
  · intro fault
    rw [hinput, resultOf_eq_error_iff, firstFault?_eq_some_iff]
    simp only [Nat.add_comm 1]
  · intro i c other hc hfault htake
    -- The records up to the fault are read as that fault, whatever comes after them.
    have hfront : ∃ fault, resultFrom 1 ((records input).take (i + 1)) = .error fault := by
      rw [resultFrom_of_fits (List.forall₂_take (i + 1) hfits)]
      cases hresult : resultOf 1 (classes.take (i + 1)) with
      | error fault => exact ⟨fault, rfl⟩
      | ok addresses =>
        have hmem : c ∈ classes.take (i + 1) :=
          List.mem_of_getElem? (i := i) (by rw [List.getElem?_take_of_lt (by omega), hc])
        exact absurd hfault ((resultOf_eq_ok_iff.mp hresult).1 c hmem)
    obtain ⟨fault, hfront⟩ := hfront
    have hsame : ∀ rows, rows.take (i + 1) = (records input).take (i + 1) →
        resultFrom 1 rows = .error fault := by
      intro rows hrows
      rw [← List.take_append_drop (i + 1) rows, resultFrom_append, hrows, hfront]
    show resultFrom 1 (records other) = resultFrom 1 (records input)
    rw [hsame _ htake, hsame _ rfl]
  · intro other others hothers hcount
    have hother : ingest other = resultOf 1 others := resultFrom_of_fits hothers 1
    rw [hother, hinput, ← mapError_atRow_resultOf_filter others 1, hcount,
      mapError_atRow_resultOf_filter]
  · intro cells texts address a
    exact not_fits_parent_of_parse_ok

end KnxExport.Export
