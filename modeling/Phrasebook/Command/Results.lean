import Phrasebook.Command.Output
import Phrasebook.Command.Table
import Phrasebook.Coverage
import Phrasebook.Lint
import Phrasebook.Session

/-! What the commands of the program find out, as JSON values and as lines to print.
-/

namespace Phrasebook.Command

open Phrasebook.Text

/-- The value of a parameter: a number if the whole text is one. -/
def paramValue (text : String) : Value :=
  match readInteger text.toList with
  | some n => .number n
  | none => .text text

/-- The argument that the parameters stand for. -/
def paramArgument (params : List (String × String)) : Argument :=
  if params = [] then .none
  else .bindings (.ofList (params.map fun (name, text) => (name, paramValue text)))

/-- What translating a key gives: the text, and keys that may have been meant. -/
structure Translated where
  key : String
  result : String
  suggestions : List String
  deriving DecidableEq

/-- Translates a key. If it stands for itself, similar keys are looked for. -/
def translateKey (d : Dictionary) (key : String) (count : Option Int64)
    (params : List (String × String)) : Translated :=
  let result := d.answer key count (paramArgument params)
  ⟨key, result, if result = key then d.suggestions key else []⟩

/-- The array of the texts. -/
def strings (texts : List String) : Json :=
  .array (texts.map .string)

/-- The object for a translated key. -/
def Translated.toJson (translated : Translated) : Json :=
  .object [("key", .string translated.key), ("result", .string translated.result),
    ("suggestions", strings translated.suggestions)]

/-- The line that lists similar keys, if there are any. -/
def Translated.hint (colored : Bool) (translated : Translated) : List String :=
  if translated.suggestions = [] then []
  else
    [paint colored .yellow "hint:" ++ " '" ++ translated.key ++ "' not found; did you mean: "
      ++ String.intercalate ", " translated.suggestions]

/-- What checking a file gives: the reason why it cannot be loaded, or the warnings about it. -/
structure Checked where
  file : String
  result : Except LoadError (List String)

namespace Checked

/-- Checks the dictionary at a path. -/
def ofFile (files : Files) (path : String) : Checked :=
  ⟨path, (load files path).map fun d => d.lint.map Warning.message⟩

/-- Whether nothing is wrong with the file. -/
def isClean (checked : Checked) : Bool :=
  match checked.result with
  | .ok warnings => warnings.isEmpty
  | .error _ => false

/-- The object for a checked file. -/
def toJson (checked : Checked) : Json :=
  let (error, warnings) := match checked.result with
    | .ok warnings => (Json.null, warnings)
    | .error error => (Json.string error.message, [])
  .object [("file", .string checked.file), ("error", error), ("warnings", strings warnings)]

/-- The lines about a file that could be loaded. -/
def lines (colored : Bool) (checked : Checked) : List String :=
  match checked.result with
  | .error _ => []
  | .ok [] => [paint colored .green "ok" ++ " " ++ checked.file]
  | .ok warnings =>
      (paint colored .yellow "warn" ++ " " ++ checked.file ++ " (" ++ toString warnings.length
          ++ " warning(s))")
        :: warnings.map ("  - " ++ ·)

/-- The lines about a file that could not be loaded. -/
def errorLines (checked : Checked) : List String :=
  match checked.result with
  | .error error => report error
  | .ok _ => []

end Checked

/-- The path of the dictionary of a language, which stands beside the source unless another
directory is given.
-/
def languageFile (source : String) (translations : Option String) (language : String) : String :=
  join (translations.getD (parent source)) (language ++ ".json")

/-- The keys of a dictionary; one that is not there has none. -/
def languageKeys (files : Files) (path : String) : Except LoadError (List String) :=
  match files path with
  | .error failure => if failure.isAbsence then .ok [] else .error (.unreadable path failure)
  | .ok _ => (load files path).map Dictionary.leafKeys

/-- The object for the figures of a language. -/
def coverageToJson (total : Nat) (coverage : Coverage) : Json :=
  .object [("language", .string coverage.language),
    ("translated", .number (.integer coverage.translated)), ("total", .number (.integer total)),
    ("missing", strings coverage.missing), ("extra", strings coverage.extra)]

/-- The row for the figures of a language. -/
def coverageRow (total : Nat) (coverage : Coverage) : List String :=
  [coverage.language, toString coverage.translated ++ "/" ++ toString total,
    toString coverage.missing.length, toString coverage.extra.length]

/-- The lines that list the missing keys of a language. -/
def missingLines (coverage : Coverage) : List String :=
  if coverage.isComplete then []
  else
    ["", "Missing in " ++ coverage.language ++ ":"] ++ coverage.missing.map fun key =>
      match coverage.renamed? key with
      | some found => "  - " ++ key ++ " (found '" ++ found ++ "')"
      | none => "  - " ++ key

/-- The table of all languages and the lists of missing keys. -/
def coverageLines (total : Nat) (coverages : List Coverage) : List String :=
  Table.draw ["Language", "Coverage", "Missing", "Extra"] (coverages.map (coverageRow total))
    ++ coverages.flatMap missingLines

/-- The number of keys of the source and the figures of the languages. -/
def coverages (files : Files) (source : String) (languages : List String)
    (translations : Option String) : Except LoadError (Nat × List Coverage) := do
  let keys := (← load files source).leafKeys
  let figures ← languages.mapM fun language => do
    let found ← languageKeys files (languageFile source translations language)
    return Coverage.compare language keys found
  return (keys.length, figures)

end Phrasebook.Command
