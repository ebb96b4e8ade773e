import Phrasebook.Command.Arguments
import Phrasebook.Command.Color

/-! The command line of the program: its three commands and their options.
-/

namespace Phrasebook.Command

open Phrasebook.Text

/-- What is asked of the program. -/
inductive Task where
  | translate (dictionary key : String) (count : Option Int64) (params : List (String × String))
    (json : Bool)
  | check (files : List String) (json : Bool)
  | coverage (source : String) (languages : List String) (translations : Option String)
    (strict json : Bool)
  deriving DecidableEq

/-- What a command line asks for. -/
inductive Invocation where
  | version
  | help
  | run (color : ColorChoice) (verbose : Bool) (task : Task)
  deriving DecidableEq

/-- The names of the choices of colour. -/
def colorNames : List String :=
  ["auto", "always", "never"]

/-- The choice with the name. -/
def readColor (name : String) : ColorChoice :=
  if name = "always" then .always else if name = "never" then .never else .auto

/-- The options that may stand before a command and after it. -/
def commonRules : List OptionRule := [
  ⟨"color", none, .choice colorNames, false⟩,
  ⟨"verbose", some 'v', .flag, false⟩,
  ⟨"help", some 'h', .flag, false⟩]

/-- What may stand before a command. -/
def globalGrammar : Grammar :=
  ⟨⟨"version", some 'V', .flag, false⟩ :: commonRules, none, true⟩

/-- What may be said to translate a key. -/
def translateGrammar : Grammar :=
  ⟨[⟨"dict", none, .path, false⟩,
    ⟨"key", none, .any, false⟩,
    ⟨"count", none, .integer, false⟩,
    ⟨"param", some 'p', .pair, true⟩,
    ⟨"json", none, .flag, false⟩] ++ commonRules, none, false⟩

/-- What may be said to check files. -/
def checkGrammar : Grammar :=
  ⟨⟨"json", none, .flag, false⟩ :: commonRules, some ⟨"files", .path⟩, false⟩

/-- What may be said to compare languages. -/
def coverageGrammar : Grammar :=
  ⟨[⟨"source", none, .path, false⟩,
    ⟨"lang", none, .any, true⟩,
    ⟨"translations", none, .path, false⟩,
    ⟨"strict", none, .flag, false⟩,
    ⟨"json", none, .flag, false⟩] ++ commonRules, none, false⟩

/-- The end of reading a command line that an item is: a request for help, or something that is
refused.
-/
def stop? : Item → Option (Except UsageError Invocation)
  | .option "help" _ => some (.ok .help)
  | .invalid error => some (.error error)
  | _ => none

/-- The name and the value around the first equals sign. -/
def paramOf (text : String) : String × String :=
  match cutOnce '=' text.toList with
  | some (name, value) => (String.ofList name, String.ofList value)
  | none => (text, "")

/-- Demands that a value is there. -/
def require {α : Type} (name : String) (value : Option α) : Except UsageError α :=
  match value with
  | some value => .ok value
  | none => .error (.missing name)

/-- The path of the dictionary to use, given by an option or by the environment. -/
def dictionaryFor (environment : Environment) (items : List Item) : Except UsageError String :=
  match valueOf? "dict" items, environment.get? dictionaryVariable with
  | some path, _ => .ok path
  | none, some "" => .error (.invalidValue "dict" "")
  | none, some path => .ok path
  | none, none => .error (.missing "dict")

/-- The task of translating a key. -/
def translateTask (environment : Environment) (items : List Item) : Except UsageError Task := do
  let dictionary ← dictionaryFor environment items
  let key ← require "key" (valueOf? "key" items)
  let count := (valueOf? "count" items).bind fun text => readInteger text.toList
  let params := (valuesOf "param" items).map paramOf
  return .translate dictionary key count params (hasFlag "json" items)

/-- The task of checking the files that are the operands. -/
def checkTask (items : List Item) : Except UsageError Task :=
  match operandsOf items with
  | [] => .error (.missing "files")
  | files => .ok (.check files (hasFlag "json" items))

/-- The task of comparing languages, which may be given together with commas between them. -/
def coverageTask (items : List Item) : Except UsageError Task := do
  let source ← require "source" (valueOf? "source" items)
  let languages := (valuesOf "lang" items).flatMap (segments ',')
  return .coverage source languages (valueOf? "translations" items) (hasFlag "strict" items)
    (hasFlag "json" items)

/-- What may be said to the command with the name. -/
def grammarFor? : String → Option Grammar
  | "translate" => some translateGrammar
  | "check" => some checkGrammar
  | "coverage" => some coverageGrammar
  | _ => none

/-- Whether there is help on what the words name: on nothing more, on a command, or on help. -/
def isHelpTopic : List String → Bool
  | [] => true
  | [name] => (grammarFor? name).isSome || name = "help"
  | _ => false

/-- The task of a command. -/
def taskFor (environment : Environment) (name : String) (items : List Item)
    : Except UsageError Task :=
  match name with
  | "translate" => translateTask environment items
  | "check" => checkTask items
  | "coverage" => coverageTask items
  | _ => .error (.unexpectedWord name)

/-- Reads the words after a request for help. -/
def parseHelp (words : List String) : Except UsageError Invocation :=
  if isHelpTopic words then .ok .help else .error (.unexpectedWord (words.headD ""))

/-- Reads the words after the name of a command. A choice of colour there wins over one before the
name.
-/
def parseCommand (environment : Environment) (globals : List Item) (name : String)
    (words : List String) : Except UsageError Invocation :=
  match grammarFor? name with
  | none => if name = "help" then parseHelp words else .error (.unexpectedWord name)
  | some grammar =>
      let items := itemsOf grammar words
      match items.findSome? stop? with
      | some result => result
      | none => do
          let task ← taskFor environment name items
          let color := ((valueOf? "color" items).or (valueOf? "color" globals)).map readColor
          return .run (color.getD .auto) (hasFlag "verbose" items || hasFlag "verbose" globals) task

/-- Reads the items before a command, of which `globals` have been read. What comes after the
command in the list is looked at last, and not at all if the command asks for help.
-/
def parseGlobal (environment : Environment) (globals : List Item)
    : List Item → Except UsageError Invocation
  | [] => .error (.missing "command")
  | .option "version" _ :: _ => .ok .version
  | .option "help" _ :: _ => .ok .help
  | .option name value :: rest =>
      parseGlobal environment (globals ++ [.option name value]) rest
  | .operand word :: _ => .error (.unexpectedWord word)
  | .command name words :: rest =>
      match parseCommand environment (globals ++ rest) name words, rest.findSome? stop? with
      | .ok .help, _ => .ok .help
      | _, some refused => refused
      | result, none => result
  | .invalid error :: _ => .error error

/-- What the words of a command line ask for. -/
def Invocation.parse (environment : Environment) (words : List String)
    : Except UsageError Invocation :=
  parseGlobal environment [] (itemsOf globalGrammar words)

/-- Says why a command line is refused. -/
def UsageError.message : UsageError → String
  | .unknownOption word => "unexpected argument '" ++ word ++ "'"
  | .unexpectedValue option => "option '" ++ option ++ "' takes no value"
  | .missingValue option => "option '" ++ option ++ "' needs a value"
  | .invalidValue option value => "invalid value '" ++ value ++ "' for '" ++ option ++ "'"
  | .repeated option => "option '" ++ option ++ "' cannot be given more than once"
  | .missing name => "missing '" ++ name ++ "'"
  | .unexpectedWord word => "unexpected argument '" ++ word ++ "'"

end Phrasebook.Command
