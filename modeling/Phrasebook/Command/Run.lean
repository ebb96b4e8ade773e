import Phrasebook.Command.Results

/-! Carrying out command lines, given the files and the environment.
-/

namespace Phrasebook.Command

/-- Translates a key of the dictionary at a path. -/
def runTranslate (files : Files) (colored : Bool) (dictionary key : String) (count : Option Int64)
    (params : List (String × String)) (json : Bool) : Output :=
  match load files dictionary with
  | .error error => ⟨failureCode, "", printed (report error)⟩
  | .ok d =>
      let translated := translateKey d key count params
      if json then ⟨0, printed [translated.toJson.indented], ""⟩
      else ⟨0, printed [translated.result], printed (translated.hint colored)⟩

/-- Checks the dictionaries at the paths. -/
def runCheck (files : Files) (colored : Bool) (paths : List String) (json : Bool) : Output :=
  let checks := paths.map (Checked.ofFile files)
  let code := if checks.all Checked.isClean then 0 else dataCode
  if json then ⟨code, printed [(Json.array (checks.map Checked.toJson)).indented], ""⟩
  else
    ⟨code, printed (checks.flatMap (Checked.lines colored)),
      printed (checks.flatMap Checked.errorLines)⟩

/-- Compares the dictionaries of languages with a source. -/
def runCoverage (files : Files) (source : String) (languages : List String)
    (translations : Option String) (strict json : Bool) : Output :=
  match coverages files source languages translations with
  | .error error => ⟨failureCode, "", printed (report error)⟩
  | .ok (total, figures) =>
      let code := if strict && !figures.all Coverage.isComplete then dataCode else 0
      if json then ⟨code, printed [(Json.array (figures.map (coverageToJson total))).indented], ""⟩
      else ⟨code, printed (coverageLines total figures), ""⟩

/-- Carries out a task. -/
def runTask (files : Files) (colored : Bool) : Task → Output
  | .translate dictionary key count params json =>
      runTranslate files colored dictionary key count params json
  | .check paths json => runCheck files colored paths json
  | .coverage source languages translations strict json =>
      runCoverage files source languages translations strict json

/-- The paths that a task may read. -/
def Task.paths : Task → List String
  | .translate dictionary _ _ _ _ => [dictionary]
  | .check paths _ => paths
  | .coverage source languages translations _ _ =>
      source :: languages.map (languageFile source translations)

/-- Names the program and its version. -/
def versionLine : String :=
  "keytext 0.1.0"

/-- Tells how to call the program. -/
def usage : List String := [
  "keytext dictionary tools",
  "",
  "Usage: keytext [--color <auto|always|never>] [-v] <COMMAND>",
  "",
  "Commands:",
  "  translate  Resolve a key against a dictionary",
  "  check      Check dictionary syntax and lint entries",
  "  coverage   Report translation coverage across languages"]

/-- Carries out what a command line asks for. -/
def run (files : Files) (environment : Environment) : Except UsageError Invocation → Output
  | .error error => ⟨usageCode, "", printed (["error: " ++ error.message, ""] ++ usage)⟩
  | .ok .version => ⟨0, printed [versionLine], ""⟩
  | .ok .help => ⟨0, printed usage, ""⟩
  | .ok (.run color _ task) => runTask files (isColored color environment) task

/-- Carries out a command line. -/
def execute (files : Files) (environment : Environment) (words : List String) : Output :=
  run files environment (Invocation.parse environment words)

end Phrasebook.Command
