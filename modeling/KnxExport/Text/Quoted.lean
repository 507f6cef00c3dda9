import KnxExport.Text.Extending
import KnxExport.Text.Unprintable

/-!
# Quoted text

Diagnostics show a text in double quotes. The quote and the backslash get a backslash, the usual
controls get their letter, and every other character that could not be seen on its own is written
as its code point. What is shown is therefore one line without raw controls, and the text can be
read off it again: no two texts have the same quoted form.
-/

namespace KnxExport.Text

/-- The code point of a character in braces, in hexadecimal without leading zeros. -/
def codePoint (c : Char) : List Char :=
  ['\\', 'u', '\x7b'] ++ Nat.toDigits 16 c.toNat ++ ['\x7d']

/-- How one character stands between the quotes. -/
def quotedChar (c : Char) : List Char :=
  if c = '"' then ['\\', '"']
  else if c = '\\' then ['\\', '\\']
  else if c = '\x00' then ['\\', '0']
  else if c = '\t' then ['\\', 't']
  else if c = '\n' then ['\\', 'n']
  else if c = '\r' then ['\\', 'r']
  else if isExtending c || isUnprintable c then codePoint c
  else [c]

/-- The text in double quotes, on one line. -/
def quoted (text : String) : String :=
  String.ofList ('"' :: (text.toList.flatMap quotedChar ++ ['"']))

end KnxExport.Text
