import Phrasebook.Text.Integer
import Phrasebook.Text.Segments

/-! Reading the words of a command line as options and operands. Options are known by rules; what
does not fit the rules becomes an invalid item, after which nothing counts.
-/

namespace Phrasebook.Command

open Phrasebook.Text

/-- What may be given to an option. A flag takes no value. -/
inductive ValueRule where
  | flag
  | any
  | path
  | integer
  | pair
  | choice (names : List String)
  deriving DecidableEq

/-- Whether the value may be given to an option with the rule. -/
def ValueRule.accepts : ValueRule → String → Bool
  | .flag, value => value = ""
  | .any, _ => true
  | .path, value => value ≠ ""
  | .integer, value => (readInteger value.toList).isSome
  | .pair, value => value.toList.contains '='
  | .choice names, value => names.contains value

/-- An option: its name after two hyphens, its letter after one, if it has one, what it takes, and
whether it may be given more than once.
-/
structure OptionRule where
  name : String
  letter : Option Char
  value : ValueRule
  repeatable : Bool

/-- The operands that may be given: what they are called, and what they must be. -/
structure OperandRule where
  name : String
  value : ValueRule

/-- What may be said: the options, the operands, if there may be any, and whether the first word
that is no option names a command.
-/
structure Grammar where
  options : List OptionRule
  operand : Option OperandRule
  commands : Bool

/-- The reasons to refuse a command line. -/
inductive UsageError where
  | unknownOption (word : String)
  | unexpectedValue (option : String)
  | missingValue (option : String)
  | invalidValue (option value : String)
  | repeated (option : String)
  | missing (name : String)
  | unexpectedWord (word : String)
  deriving DecidableEq

/-- What the words of a command line are read as: an option with its value, which is empty for a
flag, an operand, the name of a command with all words after it, or something that is refused.
-/
inductive Item where
  | option (name value : String)
  | operand (word : String)
  | command (name : String) (words : List String)
  | invalid (error : UsageError)
  deriving DecidableEq

/-- The item of an option with a value. -/
def OptionRule.take (rule : OptionRule) (value : String) : Item :=
  if rule.value.accepts value then .option rule.name value
  else .invalid (.invalidValue rule.name value)

/-- The item of a word that is no option. -/
def Grammar.takeOperand (grammar : Grammar) (word : String) : Item :=
  match grammar.operand with
  | none => .invalid (.unexpectedWord word)
  | some rule =>
      if rule.value.accepts word then .operand word else .invalid (.invalidValue rule.name word)

/-- Whether the word is a hyphen and digits. -/
def looksNegative (word : List Char) : Bool :=
  match word with
  | '-' :: digits => !digits.isEmpty && digits.all isDigit
  | _ => false

/-- Whether the word starts with a hyphen and is more than that. -/
def isOption (word : List Char) : Bool :=
  match word with
  | '-' :: _ :: _ => true
  | _ => false

/-- Whether the word can be the value of the option before it. Only an option for integers takes a
word with a hyphen.
-/
def OptionRule.canTake (rule : OptionRule) (word : List Char) : Bool :=
  !isOption word || (rule.value = .integer && looksNegative word)

/-- Reads the word after two hyphens, with a value after an equals sign or without. If the value
must come next, the option is left pending.
-/
def longOption (rules : List OptionRule) (body : List Char) : List Item × Option OptionRule :=
  let (name, attached) := match cutOnce '=' body with
    | some (name, value) => (name, some (String.ofList value))
    | none => (body, none)
  match rules.find? (fun rule => rule.name = String.ofList name), attached with
  | none, _ => ([.invalid (.unknownOption (String.ofList ('-' :: '-' :: body)))], none)
  | some rule, none =>
      if rule.value = .flag then ([.option rule.name ""], none) else ([], some rule)
  | some rule, some value =>
      if rule.value = .flag then ([.invalid (.unexpectedValue rule.name)], none)
      else ([rule.take value], none)

/-- Reads the letters after one hyphen. The first one that takes a value takes the rest of the word,
without an equals sign before it, or is left pending.
-/
def letterOptions (rules : List OptionRule) : List Char → List Item × Option OptionRule
  | [] => ([], none)
  | letter :: rest =>
      match rules.find? (fun rule => rule.letter = some letter) with
      | none => ([.invalid (.unknownOption (String.ofList ['-', letter]))], none)
      | some rule =>
          if rule.value = .flag then
            let (items, pending) := letterOptions rules rest
            (.option rule.name "" :: items, pending)
          else
            match rest with
            | [] => ([], some rule)
            | '=' :: value => ([rule.take (String.ofList value)], none)
            | value => ([rule.take (String.ofList value)], none)

/-- Reads a word that is an option. -/
def readOption (rules : List OptionRule) : List Char → List Item × Option OptionRule
  | '-' :: '-' :: body => longOption rules body
  | '-' :: letters => letterOptions rules letters
  | word => ([.operand (String.ofList word)], none)

/-- Puts the item before the others, but after the command that they begin with. -/
def Item.delay (item : Item) : List Item → List Item
  | .command name words :: rest => .command name words :: item :: rest
  | items => item :: items

/-- Whether the words begin with one that is no option. -/
def beginsPlain : List String → Bool
  | [] => false
  | word :: _ => !isOption word.toList

/-- Reads the words, the first of which belongs to the pending option, in the order in which they
take effect. If there are commands, the first word that is no option names one and ends the reading;
an option that was given its value in the word just before comes after all words of the command. All
words after two hyphens are operands.
-/
def readItems (grammar : Grammar) : Option OptionRule → List String → List Item
  | none, [] => []
  | some rule, [] => [.invalid (.missingValue rule.name)]
  | some rule, word :: rest =>
      if rule.canTake word.toList then
        let items := readItems grammar none rest
        if beginsPlain rest then (rule.take word).delay items else rule.take word :: items
      else [.invalid (.missingValue rule.name)]
  | none, word :: rest =>
      if word = "--" then rest.map grammar.takeOperand
      else if isOption word.toList then
        let (items, pending) := readOption grammar.options word.toList
        items ++ readItems grammar pending rest
      else if grammar.commands then [.command word rest]
      else grammar.takeOperand word :: readItems grammar none rest

/-- Makes the second occurrence of an option invalid unless it may be repeated. -/
def refuseRepeated (rules : List OptionRule) : List String → List Item → List Item
  | _, [] => []
  | seen, .option name value :: rest =>
      if seen.contains name && !(rules.any fun rule => rule.name = name && rule.repeatable) then
        [.invalid (.repeated name)]
      else .option name value :: refuseRepeated rules (name :: seen) rest
  | seen, item :: rest => item :: refuseRepeated rules seen rest

/-- The items of the words. -/
def itemsOf (grammar : Grammar) (words : List String) : List Item :=
  refuseRepeated grammar.options [] (readItems grammar none words)

/-- The values of all occurrences of an option. -/
def valuesOf (name : String) (items : List Item) : List String :=
  items.filterMap fun
    | .option other value => if other = name then some value else none
    | _ => none

/-- The value of an option. -/
def valueOf? (name : String) (items : List Item) : Option String :=
  (valuesOf name items).head?

/-- Whether a flag is given. -/
def hasFlag (name : String) (items : List Item) : Bool :=
  (valueOf? name items).isSome

/-- The operands. -/
def operandsOf (items : List Item) : List String :=
  items.filterMap fun
    | .operand word => some word
    | _ => none

end Phrasebook.Command
