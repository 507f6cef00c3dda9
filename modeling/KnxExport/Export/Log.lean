import KnxExport.Export
import KnxExport.Log.Event

/-!
# What is logged about an export

One event for every row that has been read, after one for the byte order mark.
-/

namespace KnxExport.Export

/-- The part of the program that reads exports. -/
def logTarget : String := "knx_group_address_generator::ingest"

/-- The event for the row with the given number. -/
def Row.event (number : Nat) : Row → Log.Event
  | .header => ⟨.debug, logTarget, "skipping the header row", [("row", toString number)]⟩
  | .parent address =>
    ⟨.debug, logTarget, "skipping a parent row",
      [("row", toString number), ("address", Text.quoted address)]⟩
  | .leaf record =>
    ⟨.trace, logTarget, "ingested a group address",
      [("row", toString number), ("address", record.address.text), ("kind", record.kind.label),
        ("datapoint_type", record.datapoint.tag)]⟩

/-- The event for a byte order mark. -/
def markEvent : Log.Event :=
  ⟨.debug, logTarget, "skipping the byte order mark", []⟩

/-- The events of reading an export, in their order. -/
def events (input : List UInt8) : List Log.Event :=
  (if Utf8.hasMark input then [markEvent] else []) ++
    (read input).rows.mapIdx fun index row => row.event (index + 1)

end KnxExport.Export
