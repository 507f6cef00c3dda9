/-!
# Paths

A path is a text. It names a file or directory by the names that lead there, with slashes between
them, from the root if it starts with a slash and otherwise from the working directory.
-/

namespace KnxExport

/-- A path taken apart. -/
structure Path where
  /-- It leads from the root. -/
  absolute : Bool
  /-- The names in it, none of them empty. A dot stands for the directory itself, two dots for the
  one that holds it. -/
  names : List String
  /-- A slash follows the last name. -/
  trailing : Bool
  deriving DecidableEq, Repr

namespace Path

/-- Takes a path apart. -/
def ofText (text : String) : Path where
  absolute := text.toList.head? = some '/'
  names := ((text.toList.splitOn '/').filter (· ≠ [])).map String.ofList
  trailing := text.toList.getLast? = some '/'

/-- Puts names together to a path. -/
def textOf (absolute : Bool) (names : List String) : String :=
  (if absolute then "/" else "") ++ String.intercalate "/" names

/-- The paths of the directories that hold what a path names, from the nearest one up. Neither the
root nor the working directory is among them. -/
def parents (text : String) : List String :=
  let path := ofText text
  let names := path.names.filter (· ≠ ".")
  let lengths := (List.range names.length).reverse.filter (· ≠ 0)
  lengths.map fun n => textOf path.absolute (names.take n)

/-- The path of the entry with the given name in a directory. -/
def join (dir name : String) : String :=
  if dir = "" ∨ (ofText dir).trailing then dir ++ name else dir ++ "/" ++ name

end Path

end KnxExport
