import KnxExport.Address

/-!
# Names of group addresses

Older projects have the floor typed into the label by hand, newer ones derive it from the middle
group. A name keeps the two apart: the floor comes from the address, and the label is stripped of
at most one leading copy of the floor's mark. Both spellings of a label therefore give one name.
-/

namespace KnxExport

/-- The part of the building that a middle group stands for. -/
inductive Floor where
  | lower
  | upper
  | exterior
  deriving DecidableEq, Repr

/-- How a floor is marked at the start of a name. -/
def Floor.mark : Floor → String
  | .lower => "LF "
  | .upper => "UF "
  | .exterior => "EXT "

/-- The floor of an address. Only the main groups 1 to 6 are divided by floor. -/
def Floor.ofAddress? (a : Address) : Option Floor :=
  if 1 ≤ a.main ∧ a.main ≤ 6 then
    if a.middle = 0 then some .lower
    else if a.middle = 1 then some .upper
    else if a.middle = 3 then some .exterior
    else none
  else none

/-- A name, with the floor kept apart from the label. -/
structure Name where
  /-- The floor, for addresses that have one. -/
  floor : Option Floor
  /-- The label without the floor's mark. -/
  label : String
  deriving DecidableEq, Repr, Inhabited

namespace Name

/-- The floor's mark, empty if there is no floor. -/
def mark (name : Name) : String :=
  match name.floor with
  | some floor => floor.mark
  | none => ""

/-- The text without one leading copy of `mark`. -/
def stripMark (mark text : List Char) : List Char :=
  if mark.isPrefixOf text then text.drop mark.length else text

/-- The name that a label gives at an address. -/
def ofLabel (label : String) (a : Address) : Name :=
  match Floor.ofAddress? a with
  | some floor => ⟨some floor, String.ofList (stripMark floor.mark.toList label.toList)⟩
  | none => ⟨none, label⟩

/-- The name as it is shown. -/
def text (name : Name) : String :=
  name.mark ++ name.label

end Name

end KnxExport
