import Phrasebook.Dictionary.Json
import Phrasebook.Json.Message
import Phrasebook.Text.Segments

/-! Files that hold dictionaries, and the ways in which loading one can fail.
-/

namespace Phrasebook.Command

open Phrasebook.Text

/-- The reasons why a file cannot be read as a text. -/
inductive ReadFailure where
  | notFound
  | notDirectory
  | isDirectory
  | notUnicode
  | system (reason : String) (code : Nat)
  deriving DecidableEq

/-- The wording of a reason, with the system's number if it has one. -/
def ReadFailure.message : ReadFailure → String
  | .notFound => "No such file or directory (os error 2)"
  | .notDirectory => "Not a directory (os error 20)"
  | .isDirectory => "Is a directory (os error 21)"
  | .notUnicode => "stream did not contain valid UTF-8"
  | .system reason code => reason ++ " (os error " ++ toString code ++ ")"

/-- Whether there is nothing at the path. -/
def ReadFailure.isAbsence : ReadFailure → Bool
  | .notFound => true
  | .notDirectory => true
  | _ => false

/-- The texts at paths. -/
abbrev Files :=
  String → Except ReadFailure String

/-- The reasons why no dictionary can be loaded from a path. -/
inductive LoadError where
  | unreadable (path : String) (failure : ReadFailure)
  | invalid (path content : String) (error : Json.SyntaxError)

/-- States what failed, and where. -/
def LoadError.message : LoadError → String
  | .unreadable path failure => "failed to read '" ++ path ++ "': " ++ failure.message
  | .invalid path _ error =>
      path ++ ":" ++ toString error.position.line ++ ":" ++ toString error.position.column ++ ": "
        ++ error.message

/-- Reads the dictionary at the path. -/
def load (files : Files) (path : String) : Except LoadError Dictionary :=
  match files path with
  | .error failure => .error (.unreadable path failure)
  | .ok content =>
      match Dictionary.parse content with
      | .ok d => .ok d
      | .error error => .error (.invalid path content error)

/-- Whether the path starts at the root. -/
def isAbsolute (path : String) : Bool :=
  path.toList.head? = some '/'

/-- The path seen from the base, unless it starts at the root. -/
def join (base path : String) : String :=
  if isAbsolute path || base = "" then path
  else if base.toList.getLast? = some '/' then base ++ path
  else base ++ "/" ++ path

/-- The path of the directory that holds a path, or the current one for the root. -/
def parent (path : String) : String :=
  let names := (segments '/' path).reverse.dropWhile fun name => name = "" || name = "."
  let directory := String.intercalate "/" (names.drop 1).reverse
  if isAbsolute path && directory = "" then (if names = [] then "." else "/") else directory

end Phrasebook.Command
