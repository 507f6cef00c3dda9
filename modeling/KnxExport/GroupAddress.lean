import KnxExport.DatapointType
import KnxExport.Kind
import KnxExport.Name

/-!
# Records of group addresses

What the library keeps of one row of an export.
-/

namespace KnxExport

/-- One group address of a project. -/
structure GroupAddress where
  /-- Its name, with the floor apart. -/
  name : Name
  /-- Free text about it, possibly of several lines. -/
  description : String
  /-- What it controls. -/
  kind : Kind
  /-- The address itself. -/
  address : Address
  /-- The type of its values. -/
  datapoint : DatapointType
  deriving DecidableEq, Repr

/-- The name that is shown: the kind, unless it is no particular one, then floor and label. -/
def GroupAddress.displayName (g : GroupAddress) : String :=
  match g.kind.lead? with
  | some lead => lead ++ " " ++ g.name.text
  | none => g.name.text

end KnxExport
