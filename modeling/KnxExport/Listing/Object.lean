import KnxExport.GroupAddress

/-!
# Records as JSON objects

A record is one object on one line, without blanks. In a string the quote and the backslash get a
backslash, and controls get their letter or their code in four digits, so that no line break and no
other control of a text stands in the line.
-/

namespace KnxExport.Listing

/-- A code in four hexadecimal digits. -/
def fourDigits (n : Nat) : List Char :=
  [Nat.digitChar (n / 4096 % 16), Nat.digitChar (n / 256 % 16), Nat.digitChar (n / 16 % 16),
    Nat.digitChar (n % 16)]

/-- How one character stands in a string. -/
def escapeChar (c : Char) : List Char :=
  if c = '"' then ['\\', '"']
  else if c = '\\' then ['\\', '\\']
  else if c = '\x08' then ['\\', 'b']
  else if c = '\x0c' then ['\\', 'f']
  else if c = '\n' then ['\\', 'n']
  else if c = '\r' then ['\\', 'r']
  else if c = '\t' then ['\\', 't']
  else if c.toNat < 0x20 then ['\\', 'u'] ++ fourDigits c.toNat
  else [c]

/-- A text as a JSON string. -/
def jsonString (text : String) : String :=
  String.ofList ('"' :: (text.toList.flatMap escapeChar ++ ['"']))

/-- A datapoint type as a JSON value: its number, or null. -/
def jsonDatapoint : DatapointType → String
  | .known n => Text.decimal n
  | .unknown => "null"

/-- The names of an object's members with their values. -/
def members (g : GroupAddress) : List (String × String) :=
  [("address", jsonString g.address.text), ("kind", jsonString g.kind.label),
    ("name", jsonString g.displayName), ("datapoint_type", jsonDatapoint g.datapoint),
    ("description", jsonString g.description)]

/-- A record as a JSON object. -/
def object (g : GroupAddress) : String :=
  let pairs := (members g).map fun member => jsonString member.1 ++ ":" ++ member.2
  "\x7b" ++ String.intercalate "," pairs ++ "\x7d"

end KnxExport.Listing
