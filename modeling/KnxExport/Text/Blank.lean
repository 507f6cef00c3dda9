import KnxExport.Text.CharClass

/-!
# Blanks

The Unicode property White_Space, and text without the blanks around it.
-/

namespace KnxExport.Text

/-- The code points with the property White_Space. -/
def blankRanges : CharClass :=
  [(0x9, 0xd), (0x20, 0x20), (0x85, 0x85), (0xa0, 0xa0), (0x1680, 0x1680), (0x2000, 0x200a),
    (0x2028, 0x2029), (0x202f, 0x202f), (0x205f, 0x205f), (0x3000, 0x3000)]

/-- A character that leaves the paper white. -/
def isBlank (c : Char) : Bool :=
  blankRanges.contains c

/-- The characters between the first and the last one that is not blank. -/
def trimBlanks (text : List Char) : List Char :=
  ((text.dropWhile isBlank).reverse.dropWhile isBlank).reverse

/-- The text without the blanks around it. -/
def trim (text : String) : String :=
  String.ofList (trimBlanks text.toList)

end KnxExport.Text
