import Phrasebook.Text.Properties

/-! Texts as literals between quotation marks, in which every character can be seen: the form in
which values are shown for inspection.
-/

namespace Phrasebook.Text.Literal

/-- Writes n in hexadecimal digits between braces. -/
def codePoint (n : Nat) : List Char :=
  '\\' :: 'u' :: '{' :: (Nat.toDigits 16 n ++ ['}'])

/-- Escapes the quotation mark and the backslash, and every character that is not printable, may be
ignored, or extends the one before it.
-/
def writeChar (c : Char) : List Char :=
  if c = '\x00' then ['\\', '0']
  else if c = '\t' then ['\\', 't']
  else if c = '\r' then ['\\', 'r']
  else if c = '\n' then ['\\', 'n']
  else if c = '"' then ['\\', '"']
  else if c = '\\' then ['\\', '\\']
  else if isExtending c || isIgnorable c || !isPrintable c then codePoint c.toNat
  else [c]

/-- The literal of the text. -/
def write (text : String) : List Char :=
  '"' :: (text.toList.flatMap writeChar ++ ['"'])

end Phrasebook.Text.Literal
