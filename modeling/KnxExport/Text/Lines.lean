/-!
# Lines of text

Text is cut at its line breaks, which are a line feed, a carriage return, or both in this order.
A line feed also ends its line, so that nothing after the last one is no further line.
-/

namespace KnxExport.Text

/-- The text of a line without the carriage return that belonged to its line feed. -/
def dropReturn (line : List Char) : List Char :=
  if line.getLast? = some '\r' then line.dropLast else line

/-- The lines that line feeds end, and what follows the last one unless it is empty. -/
def feedLines (text : List Char) : List (List Char) :=
  let parts := text.splitOn '\n'
  let rest := parts.getLast?.getD []
  parts.dropLast.map dropReturn ++ if rest = [] then [] else [rest]

/-- The lines of a text. A carriage return that is not followed by a line feed separates lines,
too, but it does not end the last one: what follows it is a line even if it is empty. -/
def lines (text : List Char) : List (List Char) :=
  (feedLines text).flatMap (·.splitOn '\r')

/-- Lines as one text, each ended by a line feed. -/
def unlines (lines : List String) : String :=
  String.join (lines.map (· ++ "\n"))

end KnxExport.Text
