import KnxExport.KindGroup
import KnxExport.Lua.Literal
import KnxExport.Text.Lines

/-!
# Annotations of the display names

A Lua document that holds annotations only: an alias that lists one alias for each kind, then, for
each kind, the alias that lists the display names of its records. Kinds come in the order in which
they first occur, the records of a kind in their order. A name is documented by the description of
its record, and it is flagged if its datapoint type is unknown.
-/

namespace KnxExport.Lua.Annotations

/-- The file that the annotations are written to. -/
def fileName : String := "ADDRESSES.lua"

/-- The alias of all display names. -/
def aliasName : String := "GROUP_ADDRESS_NAME"

/-- The alias of the display names of one kind. -/
def kindAlias (kind : Kind) : String :=
  aliasName ++ "_" ++ kind.label

/-- A text as a comment, one line for each of its own. -/
def comment (text : String) : List String :=
  (Text.lines text.toList).map fun line => "--- " ++ String.ofList line

/-- The flag of a record whose datapoint type is unknown. -/
def unknownFlag : String := "--- HAS UNKNOWN DPT"

/-- The documentation of a record's display name. -/
def documentation (g : GroupAddress) : List String :=
  comment g.description ++ if g.datapoint = .unknown then [unknownFlag] else []

/-- The line that opens an alias. -/
def aliasLine (name : String) : String := "---@alias " ++ name

/-- The line that adds a member to an alias. -/
def memberLine (member : String) : String := "---|" ++ member

/-- The lines for one record. -/
def entry (g : GroupAddress) : List String :=
  documentation g ++ [memberLine (literal g.displayName)]

/-- The line that stands for the names of one kind in the alias of all names. -/
def reference (group : KindGroup) : String :=
  memberLine (kindAlias group.kind)

/-- The lines for the records of one kind. -/
def block (group : KindGroup) : List String :=
  ["", aliasLine (kindAlias group.kind)] ++ group.members.toList.flatMap entry

/-- The lines of the document. -/
def lines (records : List GroupAddress) : List String :=
  let groups := KindGroup.ofRecords records
  aliasLine aliasName :: groups.map reference ++ groups.flatMap block

/-- The document. -/
def document (records : List GroupAddress) : String :=
  Text.unlines (lines records)

end KnxExport.Lua.Annotations
