import KnxExport.GroupAddress

/-!
# Rows of a listing

A listing shows five things about each record.
-/

namespace KnxExport.Listing

/-- The heads of the columns. -/
def headers : List String :=
  ["Address", "Kind", "Name", "Datapoint type", "Description"]

/-- A datapoint type as it is listed: other than for a driver, an unknown one is called so. -/
def datapointText : DatapointType → String
  | .known n => DatapointType.numberTag n
  | .unknown => "unknown"

/-- The cells of a record. -/
def cells (g : GroupAddress) : List String :=
  [g.address.text, g.kind.label, g.displayName, datapointText g.datapoint, g.description]

end KnxExport.Listing
