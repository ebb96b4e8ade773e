import Phrasebook.Json.Fault
import Phrasebook.Json.Writer
import Phrasebook.Text.Literal

/-! The wording of the reasons to refuse a JSON text.
-/

namespace Phrasebook.Json

open Phrasebook.Text

/-- Names a value, and shows it if it is a scalar. -/
def Found.description : Found → String
  | .null => "null"
  | .bool b => "boolean `" ++ String.ofList (writeBool b) ++ "`"
  | .integer n => "integer `" ++ String.ofList (Number.integer n).write ++ "`"
  | .float x => "floating point `" ++ String.ofList (Number.float x).write ++ "`"
  | .string s => "string " ++ String.ofList (Literal.write s)
  | .array => "sequence"

/-- The sentence that states the cause. -/
def Cause.message : Cause → String
  | .endInValue => "EOF while parsing a value"
  | .endInString => "EOF while parsing a string"
  | .endInArray => "EOF while parsing a list"
  | .endInObject => "EOF while parsing an object"
  | .expectedValue => "expected value"
  | .expectedWord => "expected ident"
  | .expectedColon => "expected `:`"
  | .expectedCommaOrBrace => "expected `,` or `\x7d`"
  | .expectedCommaOrBracket => "expected `,` or `]`"
  | .keyNotString => "key must be a string"
  | .trailingComma => "trailing comma"
  | .trailingCharacters => "trailing characters"
  | .invalidNumber => "invalid number"
  | .numberOutOfRange => "number out of range"
  | .invalidEscape => "invalid escape"
  | .endOfHexEscape => "unexpected end of hex escape"
  | .loneSurrogate => "lone leading surrogate in hex escape"
  | .controlCharacter => "control character (\\u0000-\\u001F) found while parsing a string"
  | .tooDeep => "recursion limit exceeded"
  | .notObject found => "invalid type: " ++ found.description ++ ", expected a map"
  | .unsuitableMember => "data did not match any variant of untagged enum Value"

/-- States the cause and its position. -/
def SyntaxError.message (error : SyntaxError) : String :=
  error.cause.message ++ " at line " ++ toString error.position.line ++ " column "
    ++ toString error.position.column

end Phrasebook.Json
