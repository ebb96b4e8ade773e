import Phrasebook.Command.Run

/-! The program: reads the files that a command line needs, and prints what carrying it out gives.
-/

namespace Phrasebook.Command

/-- The environment variables that are set. -/
def readEnvironment : IO Environment := do
  let found ← variableNames.mapM fun name => do
    return (← IO.getEnv name).map fun value => (name, value)
  return found.filterMap id

/-- The reason that the number of a system error stands for. The number may come with a sign. -/
def numberedFailure (code : UInt32) (reason : String) : ReadFailure :=
  let number := min code.toNat (UInt32.size - code.toNat)
  if number = 20 then .notDirectory
  else if number = 21 then .isDirectory
  else .system reason number

/-- The reason that a system error stands for. -/
def readFailure : IO.Error → ReadFailure
  | .noFileOrDirectory _ _ _ => .notFound
  | .inappropriateType _ code reason => numberedFailure code reason
  | .permissionDenied _ code _ => numberedFailure code "Permission denied"
  | error => numberedFailure 5 (toString error)

/-- The text of the file at a path. -/
def readFile (path : String) : IO (Except ReadFailure String) := do
  try
    let bytes ← IO.FS.readBinFile path
    match String.fromUTF8? bytes with
    | some content => return .ok content
    | none => return .error .notUnicode
  catch error => return .error (readFailure error)

/-- The texts at the paths. -/
def readFiles (paths : List String) : IO Files := do
  let read ← paths.mapM fun path => do return (path, ← readFile path)
  return fun path => (read.lookup path).getD (.error .notFound)

/-- The paths that must be read. -/
def pathsOf : Except UsageError Invocation → List String
  | .ok (.run _ _ task) => task.paths
  | _ => []

/-- Reads what the words need, prints what they ask for, and answers with the exit code. -/
def program (words : List String) : IO UInt32 := do
  let environment ← readEnvironment
  let invocation := Invocation.parse environment words
  let files ← readFiles (pathsOf invocation)
  let output := run files environment invocation
  IO.print output.out
  IO.eprint output.err
  return output.code.toUInt32

end Phrasebook.Command

/-- The program. -/
def main (words : List String) : IO UInt32 :=
  Phrasebook.Command.program words
