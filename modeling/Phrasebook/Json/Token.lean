import Phrasebook.Json.Numeral
import Phrasebook.Json.Quoted

/-! JSON texts as lists of tokens. A token remembers the text that it starts and the text after
it, which tell where it stands. The list ends before the end of the text if a token is broken.
-/

namespace Phrasebook.Json

open Phrasebook.Text

/-- What a token stands for. A broken one holds the fault with which reading it ends; in place of
the name of a member, only a broken string is worth that fault.
-/
inductive Lexeme where
  | null
  | bool (b : Bool)
  | number (n : Number)
  | string (s : String)
  | openArray
  | closeArray
  | openObject
  | closeObject
  | colon
  | comma
  | brokenString (fault : Fault)
  | broken (fault : Fault)

/-- A lexeme, the text from its first character on, and the text after its last one. -/
structure Token where
  lexeme : Lexeme
  start : List Char
  rest : List Char

namespace Token

/-- Whether c may stand between tokens. -/
def isSpace (c : Char) : Bool :=
  c = ' ' || c = '\n' || c = '\t' || c = '\r'

/-- Reads the expected characters, or tells where the text departs from them. -/
def word (lexeme : Lexeme) : List Char → List Char → Lexeme × List Char
  | [], text => (lexeme, text)
  | _, [] => (.broken ⟨.endInValue, 0⟩, [])
  | expected :: more, c :: rest =>
      if c = expected then word lexeme more rest
      else (.broken (.upon .expectedWord (c :: rest)), [])

/-- Reads a string after its opening quotation mark. -/
def string (text : List Char) : Lexeme × List Char :=
  match Quoted.read text with
  | .ok (chars, rest) => (.string (String.ofList chars), rest)
  | .error fault => (.brokenString fault, [])

/-- Reads a number. -/
def number (text : List Char) : Lexeme × List Char :=
  match Numeral.read text with
  | .ok (n, rest) => (.number n, rest)
  | .error fault => (.broken fault, [])

/-- Reads the lexeme that starts with the character c, which is no space. -/
def read (c : Char) (rest : List Char) : Lexeme × List Char :=
  if c = '"' then string rest
  else if c = ',' then (.comma, rest)
  else if c = ':' then (.colon, rest)
  else if c = '\x7b' then (.openObject, rest)
  else if c = '\x7d' then (.closeObject, rest)
  else if c = '[' then (.openArray, rest)
  else if c = ']' then (.closeArray, rest)
  else if c = '-' ∨ isDigit c then number (c :: rest)
  else if c = 'n' then word .null ['u', 'l', 'l'] rest
  else if c = 't' then word (.bool true) ['r', 'u', 'e'] rest
  else if c = 'f' then word (.bool false) ['a', 'l', 's', 'e'] rest
  else (.broken (.upon .expectedValue (c :: rest)), [])

/-- Up to `fuel` tokens of the text. -/
def scanFrom : Nat → List Char → List Token
  | 0, _ => []
  | fuel + 1, text =>
      match text.dropWhile isSpace with
      | [] => []
      | c :: rest =>
          let (lexeme, after) := read c rest
          ⟨lexeme, c :: rest, after⟩ :: scanFrom fuel after

/-- The tokens of the text, of which there are at most as many as characters. -/
def scan (text : List Char) : List Token :=
  scanFrom text.length text

end Token

end Phrasebook.Json
