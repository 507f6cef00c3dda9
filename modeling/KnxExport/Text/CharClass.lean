/-!
# Classes of characters

A class of characters is a list of inclusive code point ranges. The properties that the library
takes from the Unicode standard are values of this type, each in the module named for it.
-/

namespace KnxExport.Text

/-- Inclusive ranges of code points. -/
abbrev CharClass := List (Nat × Nat)

/-- The character lies in one of the ranges. -/
def CharClass.contains (ranges : CharClass) (c : Char) : Bool :=
  ranges.any fun range => range.1 ≤ c.toNat && c.toNat ≤ range.2

end KnxExport.Text
