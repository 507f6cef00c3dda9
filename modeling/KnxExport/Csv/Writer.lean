/-!
# Writing comma separated values

A record is written piece by piece: its cells, a comma between two of them, and a line feed at the
end. A cell stands in quotes if it holds a comma, a quote or a line break, and in quotes a quote is
written twice. The quotes of a cell are closed by what comes after it, a comma or the end of the
record. An empty line would be no record, so a record that has nothing to show is written as a pair
of quotes. The reader of this library reads such records back cell for cell.
-/

namespace KnxExport.Csv

/-- A character that a cell can hold only in quotes. -/
def isSpecial (c : Char) : Bool :=
  c == ',' || c == '"' || c == '\r' || c == '\n'

/-- How one character stands in quotes. -/
def doubleQuote (c : Char) : List Char :=
  if c = '"' then ['"', '"'] else [c]

/-- A record while it is being written. -/
structure Writer where
  /-- What has been written of it. -/
  text : String := ""
  /-- The last cell stands in quotes that are still open. -/
  quoting : Bool := false

namespace Writer

/-- Closes the quotes that are open. -/
def close (w : Writer) : Writer :=
  if w.quoting then ⟨w.text ++ "\"", false⟩ else w

/-- Writes a cell. If it needs quotes, they stay open. -/
def cell (w : Writer) (text : String) : Writer :=
  if text.toList.any isSpecial then
    ⟨w.text ++ String.ofList ('"' :: text.toList.flatMap doubleQuote), true⟩
  else ⟨w.text ++ text, false⟩

/-- Goes on to the next cell. -/
def comma (w : Writer) : Writer :=
  ⟨w.close.text ++ ",", false⟩

/-- Ends the record. -/
def finish (w : Writer) : String :=
  if w.text.isEmpty then "\"\"\n" else w.close.text ++ "\n"

end Writer

/-- A record as it is written, with the line feed that ends it. -/
def writeRecord : List String → String
  | [] => Writer.finish {}
  | first :: rest =>
    (rest.foldl (fun w text => w.comma.cell text) (Writer.cell {} first)).finish

end KnxExport.Csv
