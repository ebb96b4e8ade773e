import Phrasebook.Json.Fault

/-! Strings inside JSON texts: reading them after the opening quotation mark, and writing them
with the fewest escapes.
-/

namespace Phrasebook.Json.Quoted

open Phrasebook.Text

/-- The value of a hexadecimal digit. -/
def hexValue? (c : Char) : Option Nat :=
  if '0' ≤ c ∧ c ≤ '9' then some (c.toNat - '0'.toNat)
  else if 'a' ≤ c ∧ c ≤ 'f' then some (c.toNat - 'a'.toNat + 10)
  else if 'A' ≤ c ∧ c ≤ 'F' then some (c.toNat - 'A'.toNat + 10)
  else none

/-- The number that four hexadecimal digits write. -/
def hexNumber? (a b c d : Char) : Option Nat := do
  return (((← hexValue? a) * 16 + (← hexValue? b)) * 16 + (← hexValue? c)) * 16 + (← hexValue? d)

/-- The number written by the four bytes that the text starts with. -/
def hexUnit (text : List Char) : Except Fault Nat :=
  let fault : Fault :=
    if size text < 4 then ⟨.endInString, 0⟩ else ⟨.invalidEscape, size text - 4⟩
  match text with
  | a :: b :: c :: d :: _ =>
      match hexNumber? a b c d with
      | some unit => .ok unit
      | none => .error fault
  | _ => .error fault

/-- The character written by a leading surrogate and the escape of a trailing one, which the text
must start with.
-/
def trailingUnit (leading : Nat) : List Char → Except Fault Char
  | '\\' :: 'u' :: rest => do
      let trailing ← hexUnit rest
      if 0xDC00 ≤ trailing ∧ trailing ≤ 0xDFFF then
        return Char.ofNat (0x10000 + (leading - 0xD800) * 0x400 + (trailing - 0xDC00))
      else throw (.before .loneSurrogate (rest.drop 4))
  | '\\' :: rest => throw (.instead .endInString .endOfHexEscape rest)
  | rest => throw (.instead .endInString .endOfHexEscape rest)

/-- The character that four hexadecimal digits stand for, or eight in two escapes, and the number of
characters that write it.
-/
def unicodeEscape (text : List Char) : Except Fault (Char × Nat) := do
  let unit ← hexUnit text
  let rest := text.drop 4
  if 0xDC00 ≤ unit ∧ unit ≤ 0xDFFF then throw (.before .loneSurrogate rest)
  else if 0xD800 ≤ unit ∧ unit ≤ 0xDBFF then return (← trailingUnit unit rest, 10)
  else return (Char.ofNat unit, 4)

/-- The character that the text after a backslash stands for, and the number of characters that
write it.
-/
def escape : List Char → Except Fault (Char × Nat)
  | '"' :: _ => return ('"', 1)
  | '\\' :: _ => return ('\\', 1)
  | '/' :: _ => return ('/', 1)
  | 'b' :: _ => return ('\x08', 1)
  | 'f' :: _ => return ('\x0c', 1)
  | 'n' :: _ => return ('\n', 1)
  | 'r' :: _ => return ('\r', 1)
  | 't' :: _ => return ('\t', 1)
  | 'u' :: rest => do
      let (c, count) ← unicodeEscape rest
      return (c, count + 1)
  | text => throw (.instead .endInString .invalidEscape text)

/-- Reads a string up to its closing quotation mark, after passing over the first `skip` characters
of the text.
-/
def readFrom : Nat → List Char → Scan (List Char)
  | _, [] => .error ⟨.endInString, 0⟩
  | skip + 1, _ :: rest => readFrom skip rest
  | 0, c :: rest =>
      if c = '"' then .ok ([], rest)
      else if c = '\\' then
        match escape rest with
        | .ok (decoded, count) =>
            (readFrom count rest).map fun (chars, rest) => (decoded :: chars, rest)
        | .error fault => .error fault
      else if c.toNat < 0x20 then .error (.before .controlCharacter rest)
      else (readFrom 0 rest).map fun (chars, rest) => (c :: chars, rest)

/-- Reads a string whose opening quotation mark has been passed. -/
def read (text : List Char) : Scan (List Char) :=
  readFrom 0 text

/-- The hexadecimal digit of value n. -/
def hexDigit (n : Nat) : Char :=
  if n < 10 then Char.ofNat ('0'.toNat + n) else Char.ofNat ('a'.toNat + (n - 10))

/-- Escapes the quotation mark, the backslash and the control characters below the space, and leaves
all other characters as they are.
-/
def writeChar (c : Char) : List Char :=
  if c = '"' then ['\\', '"']
  else if c = '\\' then ['\\', '\\']
  else if c = '\x08' then ['\\', 'b']
  else if c = '\t' then ['\\', 't']
  else if c = '\n' then ['\\', 'n']
  else if c = '\x0c' then ['\\', 'f']
  else if c = '\r' then ['\\', 'r']
  else if c.toNat < 0x20 then
    ['\\', 'u', '0', '0', hexDigit (c.toNat / 16), hexDigit (c.toNat % 16)]
  else [c]

/-- The text of the string s between its quotation marks. -/
def write (s : String) : List Char :=
  '"' :: (s.toList.flatMap writeChar ++ ['"'])

end Phrasebook.Json.Quoted
