import KnxExport.GroupAddress
import KnxExport.Lua.Literal
import KnxExport.Text.Lines

/-!
# The script that creates the group addresses

A Lua function that returns a table with one `GroupAddress` object for each record, in their order.
-/

namespace KnxExport.Lua.Script

/-- The file that the script is written to. -/
def fileName : String := "createGroupAddresses.lua"

/-- The table entry for one record: its display name, its address and the tag of its type. -/
def entry (g : GroupAddress) : String :=
  "\t\tGroupAddress(" ++ literal g.displayName ++ ", " ++ literal g.address.text ++ ", " ++
    literal g.datapoint.tag ++ "),"

/-- The lines of the script. -/
def lines (records : List GroupAddress) : List String :=
  ["---@return table<number,GroupAddress>", "function CreateGroupAddresses()", "\treturn \x7b"] ++
    records.map entry ++ ["\t\x7d", "end"]

/-- The script. -/
def document (records : List GroupAddress) : String :=
  Text.unlines (lines records)

end KnxExport.Lua.Script
