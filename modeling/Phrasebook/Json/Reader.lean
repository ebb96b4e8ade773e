import Phrasebook.Json.Token
import Phrasebook.Ordered

/-! Reading JSON texts. The arrays and objects that are still open form a stack of frames, and the
tokens are read once, from first to last. Of members with one name, the first gives the position
and the last the value.
-/

namespace Phrasebook.Json

open Phrasebook.Text

/-- An open array with the items read so far, or an open object with the members read so far and the
name of the member whose value comes next. The last one read stands first.
-/
inductive Frame where
  | array (done : List Json)
  | object (done : List (String × Json)) (name : String)

/-- The places where an item can stand: where there must be one, at the start of an array or object,
or after a comma.
-/
inductive Slot where
  | only
  | first
  | next
  deriving DecidableEq

/-- What the reader of one value answers: the value and the tokens after it, or a fault. -/
abbrev Outcome :=
  Except Fault (Json × List Token)

/-- The number of arrays and objects that can be open at a time. -/
def maxDepth : Nat :=
  127

/-- The fault of a member whose value is not admitted. It is found after the brace that may follow
the value, or before whatever else comes next.
-/
def unsuitable : List Token → Fault
  | [] => ⟨.unsuitableMember, 0⟩
  | token :: _ =>
      match token.lexeme with
      | .closeObject => .before .unsuitableMember token.rest
      | _ => .before .unsuitableMember token.start

mutual

/-- Reads a value and goes on with the frames of the stack. -/
def readValue (admits : Json → Bool) (slot : Slot) (stack : List Frame) : List Token → Outcome
  | [] => .error ⟨if slot = .first then .endInArray else .endInValue, 0⟩
  | token :: rest =>
      match token.lexeme with
      | .null => deliver admits .null stack rest
      | .bool b => deliver admits (.bool b) stack rest
      | .number n => deliver admits (.number n) stack rest
      | .string s => deliver admits (.string s) stack rest
      | .openArray =>
          if stack.length < maxDepth then readValue admits .first (.array [] :: stack) rest
          else .error (.upon .tooDeep token.start)
      | .openObject =>
          if stack.length < maxDepth then readName admits .first [] stack rest
          else .error (.upon .tooDeep token.start)
      | .closeArray =>
          match slot, stack with
          | .first, _ :: outer => deliver admits (.array []) outer rest
          | .next, _ => .error (.upon .trailingComma token.start)
          | _, _ => .error (.upon .expectedValue token.start)
      | .closeObject => .error (.upon .expectedValue token.start)
      | .colon => .error (.upon .expectedValue token.start)
      | .comma => .error (.upon .expectedValue token.start)
      | .brokenString fault => .error fault
      | .broken fault => .error fault

/-- Reads the name of a member of an object whose members up to there are `done`, and the colon
after it.
-/
def readName (admits : Json → Bool) (slot : Slot) (done : List (String × Json))
    (stack : List Frame) : List Token → Outcome
  | [] => .error ⟨if slot = .first then .endInObject else .endInValue, 0⟩
  | token :: rest =>
      match token.lexeme with
      | .string name =>
          match rest with
          | [] => .error ⟨.endInObject, 0⟩
          | separator :: rest =>
              match separator.lexeme with
              | .colon => readValue admits .only (.object done name :: stack) rest
              | _ => .error (.upon .expectedColon separator.start)
      | .brokenString fault => .error fault
      | .closeObject =>
          if slot = .first then deliver admits (.object []) stack rest
          else .error (.upon .trailingComma token.start)
      | _ => .error (.upon .keyNotString token.start)

/-- Puts a complete value into the innermost frame and reads what may follow it there. Without a
frame the value is the answer. The members of the outermost object must be admitted.
-/
def deliver (admits : Json → Bool) (value : Json) : List Frame → List Token → Outcome
  | [], tokens => .ok (value, tokens)
  | .array _ :: _, [] => .error ⟨.endInArray, 0⟩
  | .array done :: outer, token :: rest =>
      match token.lexeme with
      | .comma => readValue admits .next (.array (value :: done) :: outer) rest
      | .closeArray => deliver admits (.array (value :: done).reverse) outer rest
      | _ => .error (.upon .expectedCommaOrBracket token.start)
  | .object done name :: outer, tokens =>
      if outer.isEmpty && !admits value then .error (unsuitable tokens)
      else
        match tokens with
        | [] => .error ⟨.endInObject, 0⟩
        | token :: rest =>
            match token.lexeme with
            | .comma => readName admits .next ((name, value) :: done) outer rest
            | .closeObject =>
                let members := Ordered.collect ((name, value) :: done).reverse
                deliver admits (.object members) outer rest
            | _ => .error (.upon .expectedCommaOrBrace token.start)

end

/-- Requires that no token follows the value. -/
def complete : Outcome → Except Fault Json
  | .ok (value, []) => .ok value
  | .ok (_, token :: _) => .error (.upon .trailingCharacters token.start)
  | .error fault => .error fault

/-- Reads a text of one value. -/
def readTokens (tokens : List Token) : Except Fault Json :=
  complete (readValue (fun _ => true) .only [] tokens)

/-- Reads a text of one object, all of whose members must be admitted. A scalar in its place is read
before it is refused.
-/
def readObjectTokens (admits : Json → Bool) : List Token → Except Fault Json
  | [] => .error ⟨.endInValue, 0⟩
  | token :: rest =>
      match token.lexeme with
      | .openObject => complete (readName admits .first [] [] rest)
      | .null => .error (.before (.notObject .null) token.rest)
      | .bool b => .error (.before (.notObject (.bool b)) token.rest)
      | .number (.integer n) => .error (.before (.notObject (.integer n)) token.rest)
      | .number (.float x) => .error (.before (.notObject (.float x)) token.rest)
      | .string s => .error (.before (.notObject (.string s)) token.rest)
      | .openArray => .error (.before (.notObject .array) token.start)
      | .brokenString fault => .error fault
      | .broken fault => .error fault
      | _ => .error (.upon .expectedValue token.start)

/-- Places the fault of a result in the text. -/
def located {α : Type} (text : List Char) : Except Fault α → Except SyntaxError α :=
  Except.mapError fun fault => fault.locate text

/-- Reads a text of one JSON value. -/
def parse (text : String) : Except SyntaxError Json :=
  located text.toList (readTokens (Token.scan text.toList))

/-- The members of an object; other values have none. -/
def members : Json → List (String × Json)
  | .object members => members
  | _ => []

/-- The members of the object that the text consists of, all of which must be admitted. -/
def parseObject (admits : Json → Bool) (text : String)
    : Except SyntaxError (List (String × Json)) :=
  (located text.toList (readObjectTokens admits (Token.scan text.toList))).map members

end Phrasebook.Json
