/-!
# String literals of Lua

A text is written in double quotes. The quote and the backslash get a backslash, line feed, carriage
return and tab get their letter, and every other ASCII control is written as a decimal escape of
three digits, so that a digit after it is not taken for a part of it. A literal is therefore one
line, and a lexer that starts at its first quote ends at its last one with the text as its value.
-/

namespace KnxExport.Lua

/-- The last three digits of a number. -/
def threeDigits (n : Nat) : List Char :=
  [Nat.digitChar (n / 100 % 10), Nat.digitChar (n / 10 % 10), Nat.digitChar (n % 10)]

/-- How one character stands between the quotes. -/
def escapeChar (c : Char) : List Char :=
  if c = '"' then ['\\', '"']
  else if c = '\\' then ['\\', '\\']
  else if c = '\n' then ['\\', 'n']
  else if c = '\r' then ['\\', 'r']
  else if c = '\t' then ['\\', 't']
  else if c.toNat < 0x20 ∨ c.toNat = 0x7f then '\\' :: threeDigits c.toNat
  else [c]

/-- The text as a string literal. -/
def literal (text : String) : String :=
  String.ofList ('"' :: (text.toList.flatMap escapeChar ++ ['"']))

end KnxExport.Lua
