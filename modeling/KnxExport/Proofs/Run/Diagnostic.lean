import KnxExport.Proofs.Text.Lines
import KnxExport.Proofs.Text.Quoted
import KnxExport.Run.Fault

/-!
# What a diagnostic looks like

A fault has an error behind it, which may have another one behind it, and so on. Its diagnostic has
one line for the fault and one for each of these errors. Texts of the user only stand in it quoted,
so whatever they are, they break no line and bring no control into one; what remains is how the
system describes its own errors.

Main statements: `splitOn_diagnostic`, the lines of a diagnostic, with `exists_chain`, the errors
that they are about; and `Address.Fault.message_injective`, nothing about an address is lost in the
message about it.
-/

namespace KnxExport

open Text (IsPlain)

/-! ## Messages -/

/-- The message about an address is plain, whatever the text of the address is. -/
theorem Address.Fault.isPlain_message (fault : Address.Fault) : IsPlain fault.message := by
  cases fault with
  | segmentCount text count =>
    refine .append (.append (.append (.append ?_ (.quoted text)) ?_) (.toString count)) ?_
    all_goals decide +kernel
  | invalidSegment segment text =>
    have hname : IsPlain segment.name := by cases segment <;> decide
    refine .append (.append (.append (.append ?_ hname) ?_) (.quoted text)) ?_
    all_goals decide +kernel

/-- Where bytes are not UTF-8 is told in numbers. -/
theorem Utf8.Fault.isPlain_message (fault : Utf8.Fault) : IsPlain fault.message := by
  unfold message
  split
  · next length _ =>
    refine .append (.append (.append ?_ (.toString length)) ?_) (.toString fault.validUpTo)
    all_goals decide +kernel
  · exact .append (by decide +kernel) (.toString fault.validUpTo)

/-- What is wrong with a row is told in numbers. -/
theorem Export.Fault.isPlain_message (fault : Export.Fault) : IsPlain fault.message := by
  cases fault with
  | tooFewColumns row actual =>
    refine .append (.append (.append (.append (.append ?_ (.toString row)) ?_)
      (.toString minColumns)) ?_) (.toString actual)
    all_goals decide +kernel
  | invalidAddress row fault =>
    refine .append (.append ?_ (.toString row)) ?_
    all_goals decide +kernel
  | invalidUtf8 row column fault =>
    refine .append (.append (.append (.append ?_ (.toString row)) ?_) (.toString column)) ?_
    all_goals decide +kernel

/-- A listing is told about by its path, which is quoted. -/
theorem Listing.Fault.isPlain_message (fault : Listing.Fault) : IsPlain fault.message := by
  cases fault with
  | openFile path error => exact .append (by decide +kernel) (.quoted path)
  | writeFile path error => exact .append (by decide +kernel) (.quoted path)
  | writeTerminal error =>
    show IsPlain "could not write the listing to the terminal"
    decide +kernel
  | writeObject error =>
    show IsPlain "could not serialize a group address to JSON"
    decide +kernel

/-- A run is told about by a path, which is quoted. -/
theorem Run.Fault.isPlain_message (fault : Run.Fault) : IsPlain fault.message := by
  cases fault with
  | readInput path error => exact .append (by decide +kernel) (.quoted path)
  | ingest path fault => exact .append (by decide +kernel) (.quoted path)
  | createDirectory path error => exact .append (by decide +kernel) (.quoted path)
  | writeOutput path error => exact .append (by decide +kernel) (.quoted path)
  | listing fault =>
    show IsPlain "could not list the group addresses"
    decide +kernel

/-! ## What a message about an address tells -/

/-- Texts that begin with two others agree as far as both of these go. -/
theorem take_eq_of_append_eq {front other rest last : String} (h : front ++ rest = other ++ last)
    {n : Nat} (hfront : n ≤ front.toList.length) (hother : n ≤ other.toList.length) :
    front.toList.take n = other.toList.take n := by
  have hchars : front.toList ++ rest.toList = other.toList ++ last.toList := by
    rw [← String.toList_append, h, String.toList_append]
  rw [← List.take_append_of_le_length hfront, hchars, List.take_append_of_le_length hother]

/-- The levels are told apart by the first two letters of their names. -/
theorem Address.Segment.eq_of_take_name {segment other : Segment}
    (h : segment.name.toList.take 2 = other.name.toList.take 2) : segment = other := by
  cases segment <;> cases other <;> first | rfl | exact absurd h (by decide)

theorem Address.Segment.two_le_length_name (segment : Segment) :
    2 ≤ segment.name.toList.length := by
  cases segment <;> decide

/-- Numbers with one text are one number. -/
theorem eq_of_toString_eq {n m : Nat} (h : toString n = toString m) : n = m := by
  rw [Nat.toString_eq_ofList_toDigits, Nat.toString_eq_ofList_toDigits, String.ofList_inj] at h
  rw [← Nat.ofDigitChars_ten_toDigits (n := n), h, Nat.ofDigitChars_ten_toDigits]

/-- **The message about an address loses nothing.** Which text has how many segments, or which
segment is no number and how it is written, can be told from the message. -/
theorem Address.Fault.message_injective : Function.Injective Address.Fault.message := by
  intro fault other h
  unfold message at h
  simp only [String.append_assoc] at h
  cases fault with
  | segmentCount text count =>
    cases other with
    | segmentCount text' count' =>
      simp only [String.append_right_inj] at h
      obtain ⟨rfl, hrest⟩ := Text.quoted_append_inj h
      rw [String.append_right_inj, String.append_left_inj] at hrest
      rw [eq_of_toString_eq hrest]
    | invalidSegment segment' text' =>
      have hfirst := take_eq_of_append_eq (n := 1) h (by decide) (by decide)
      exact absurd hfirst (by decide)
  | invalidSegment segment text =>
    cases other with
    | segmentCount text' count' =>
      have hfirst := take_eq_of_append_eq (n := 1) h (by decide) (by decide)
      exact absurd hfirst (by decide)
    | invalidSegment segment' text' =>
      simp only [String.append_right_inj] at h
      obtain rfl : segment = segment' := Segment.eq_of_take_name
        (take_eq_of_append_eq h segment.two_le_length_name segment'.two_le_length_name)
      simp only [String.append_right_inj] at h
      obtain ⟨rfl, -⟩ := Text.quoted_append_inj h
      rfl

namespace Run

/-! ## The errors behind a fault -/

/-- An error behind a fault. -/
inductive Cause where
  | export (fault : Export.Fault)
  | address (fault : Address.Fault)
  | bytes (fault : Utf8.Fault)
  | listing (fault : Listing.Fault)
  | system (error : SystemError)

namespace Cause

/-- The error in words. -/
def message : Cause → String
  | .export fault => fault.message
  | .address fault => fault.message
  | .bytes fault => fault.message
  | .listing fault => fault.message
  | .system error => error.message

/-- The error that lies behind another one. -/
def source? : Cause → Option Cause
  | .export (.invalidAddress _ fault) => some (.address fault)
  | .export (.invalidUtf8 _ _ fault) => some (.bytes fault)
  | .listing fault => some (.system fault.error)
  | .export (.tooFewColumns _ _) | .address _ | .bytes _ | .system _ => none

end Cause

/-- Errors from the given one on, each behind the one before it, down to one with none behind it. -/
inductive Chain : Option Cause → List Cause → Prop
  | none : Chain none []
  | some {cause : Cause} {causes : List Cause} (h : Chain cause.source? causes) :
    Chain (some cause) (cause :: causes)

namespace Fault

/-- The error behind a fault. -/
def source : Fault → Cause
  | .readInput _ error | .createDirectory _ error | .writeOutput _ error => .system error
  | .ingest _ fault => .export fault
  | .listing fault => .listing fault

/-- The causes of a fault are the errors behind it, all of them and in their order. -/
theorem exists_chain (fault : Fault) :
    ∃ causes, Chain (some fault.source) causes ∧ fault.causes = causes.map Cause.message := by
  cases fault with
  | readInput path error => exact ⟨_, .some .none, rfl⟩
  | createDirectory path error => exact ⟨_, .some .none, rfl⟩
  | writeOutput path error => exact ⟨_, .some .none, rfl⟩
  | listing fault => exact ⟨_, .some (.some .none), rfl⟩
  | ingest path fault =>
    cases fault with
    | tooFewColumns row actual => exact ⟨_, .some .none, rfl⟩
    | invalidAddress row fault => exact ⟨_, .some (.some .none), rfl⟩
    | invalidUtf8 row column fault => exact ⟨_, .some (.some .none), rfl⟩

/-! ## Lines -/

/-- The system's own error in a fault, if there is one, is described without controls. -/
def IsDescribed : Fault → Prop
  | .readInput _ error | .createDirectory _ error | .writeOutput _ error => IsPlain error.message
  | .listing fault => IsPlain fault.error.message
  | .ingest _ _ => True

variable {fault : Fault}

/-- The causes are told without controls. -/
theorem isPlain_of_mem_causes (h : fault.IsDescribed) : ∀ text ∈ fault.causes, IsPlain text := by
  cases fault with
  | readInput path error => exact List.forall_mem_singleton.mpr h
  | createDirectory path error => exact List.forall_mem_singleton.mpr h
  | writeOutput path error => exact List.forall_mem_singleton.mpr h
  | listing fault =>
    exact List.forall_mem_cons.mpr ⟨fault.isPlain_message, List.forall_mem_singleton.mpr h⟩
  | ingest path fault =>
    refine List.forall_mem_cons.mpr ⟨fault.isPlain_message, ?_⟩
    cases fault with
    | tooFewColumns row actual => exact List.forall_mem_nil _
    | invalidAddress row fault => exact List.forall_mem_singleton.mpr fault.isPlain_message
    | invalidUtf8 row column fault => exact List.forall_mem_singleton.mpr fault.isPlain_message

/-- No line about a fault has a control in it. -/
theorem isPlain_of_mem_lines (h : fault.IsDescribed) : ∀ line ∈ fault.lines, IsPlain line := by
  have hfault : IsPlain "error: " := by decide
  have hcause : IsPlain "  because: " := by decide
  refine List.forall_mem_cons.mpr ⟨hfault.append fault.isPlain_message, ?_⟩
  rw [List.forall_mem_map]
  intro text htext
  exact hcause.append (isPlain_of_mem_causes h text htext)

/-- **The lines of a diagnostic** are those about the fault and its causes, and a line feed ends the
last one. -/
theorem splitOn_diagnostic (h : fault.IsDescribed) :
    fault.diagnostic.toList.splitOn '\n' = fault.lines.map String.toList ++ [[]] := by
  apply Text.splitOn_unlines
  intro line hline hfeed
  exact (isPlain_of_mem_lines h line hline).ne_feed _ hfeed rfl

end Fault

end Run

end KnxExport
