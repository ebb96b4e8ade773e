import Phrasebook.Command.Files
import Phrasebook.Command.Invocation
import Phrasebook.Diagnostic

/-! What the program prints: lines, exit codes, and reports of dictionaries that cannot be loaded.
-/

namespace Phrasebook.Command

open Phrasebook.Text

/-- The exit code of a run, and what it prints on either stream. -/
structure Output where
  code : Nat
  out : String
  err : String
  deriving DecidableEq

/-- The exit code for dictionaries that are found wanting. -/
def dataCode : Nat := 65

/-- The exit code for dictionaries that cannot be loaded. -/
def failureCode : Nat := 70

/-- The exit code for a command line that is refused. -/
def usageCode : Nat := 2

/-- Ends every line with a newline. -/
def printed (lines : List String) : String :=
  String.join (lines.map (· ++ "\n"))

/-- Tells of a dictionary that cannot be loaded, and of the place in its text if it is not well
formed.
-/
def report : LoadError → List String
  | .unreadable path failure => [(LoadError.unreadable path failure).message]
  | .invalid path content error =>
      let position := error.position
      let diagnostic := Diagnostic.ofFailure content position.line position.column error.message
      [diagnostic.code, diagnostic.headline,
        path ++ ":" ++ toString position.line ++ ":" ++ toString position.column]
        ++ diagnostic.labels.map (fun label => label.text ++ " at byte " ++ toString label.offset)
        ++ ["help: " ++ diagnostic.help]

end Phrasebook.Command
