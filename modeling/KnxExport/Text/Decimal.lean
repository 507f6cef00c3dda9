/-!
# Decimal numbers of sixteen bits

The numbers of an export are written in decimal digits without a sign. Any number of leading zeros
is allowed, the value has to fit into sixteen bits, and a number is never read from a part of its
text.
-/

namespace KnxExport.Text

/-- The number that a text of ASCII digits denotes, if it is at most 65535. A sign, a blank, a
digit of another script or an empty text is not a number. -/
def word? (digits : List Char) : Option UInt16 :=
  let value := Nat.ofDigitChars 10 digits 0
  if digits ≠ [] ∧ digits.all Char.isDigit ∧ value ≤ 65535 then some (UInt16.ofNat value) else none

/-- The digits of a number, without leading zeros. -/
def decimal (n : UInt16) : String :=
  String.ofList (Nat.toDigits 10 n.toNat)

end KnxExport.Text
