import Phrasebook.Text.Segments

/-! What is wrong with a JSON text, and where. A fault is found while some of the text is still
unread; its place is given by the number of bytes left, and turned into a line and a column at the
end.
-/

namespace Phrasebook.Json

open Phrasebook.Text

/-- The kinds of value that can stand where an object is required. -/
inductive Found where
  | null
  | bool (b : Bool)
  | integer (n : Int)
  | float (x : Float)
  | string (s : String)
  | array

/-- The reasons to refuse a JSON text. -/
inductive Cause where
  | endInValue
  | endInString
  | endInArray
  | endInObject
  | expectedValue
  | expectedWord
  | expectedColon
  | expectedCommaOrBrace
  | expectedCommaOrBracket
  | keyNotString
  | trailingComma
  | trailingCharacters
  | invalidNumber
  | numberOutOfRange
  | invalidEscape
  | endOfHexEscape
  | loneSurrogate
  | controlCharacter
  | tooDeep
  | notObject (found : Found)
  | unsuitableMember

/-- A cause, and the number of bytes that are unread when it is found. -/
structure Fault where
  cause : Cause
  left : Nat

/-- What the reader of one item answers: the item and the text after it, or a fault. -/
abbrev Scan (α : Type) :=
  Except Fault (α × List Char)

namespace Fault

/-- A fault found before the first character of the remaining text. -/
def before (cause : Cause) (text : List Char) : Fault :=
  ⟨cause, size text⟩

/-- A fault found at the first byte of the remaining text, which counts as read. -/
def upon (cause : Cause) (text : List Char) : Fault :=
  ⟨cause, size text - 1⟩

/-- The fault of a text that lacks what must come next, which depends on whether anything comes at
all.
-/
def instead (atEnd otherwise : Cause) : List Char → Fault
  | [] => ⟨atEnd, 0⟩
  | c :: rest => upon otherwise (c :: rest)

end Fault

/-- A line, counted from one, and the number of bytes before a place on that line. -/
structure Position where
  line : Nat
  column : Nat
  deriving DecidableEq

/-- The position after the given number of bytes of the text. Only newlines end lines. -/
def Position.advance (position : Position) : List Char → Nat → Position
  | [], _ => position
  | c :: rest, bytes =>
      if bytes < c.utf8Size then ⟨position.line, position.column + bytes⟩
      else
        let next : Position :=
          if c = '\n' then ⟨position.line + 1, 0⟩
          else ⟨position.line, position.column + c.utf8Size⟩
        next.advance rest (bytes - c.utf8Size)

/-- The position after the given number of bytes of a whole text. -/
def Position.after (text : List Char) (bytes : Nat) : Position :=
  (⟨1, 0⟩ : Position).advance text bytes

/-- A cause and the position at which it was found. -/
structure SyntaxError where
  cause : Cause
  position : Position

/-- Places a fault in the whole text. -/
def Fault.locate (fault : Fault) (text : List Char) : SyntaxError :=
  ⟨fault.cause, .after text (size text - fault.left)⟩

end Phrasebook.Json
