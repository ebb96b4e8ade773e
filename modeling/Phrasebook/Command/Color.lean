import Phrasebook.Command.Environment
import Phrasebook.Text.Segments

/-! Colours of what the program prints, and whether it uses them.
-/

namespace Phrasebook.Command

open Phrasebook.Text

/-- When output is coloured. -/
inductive ColorChoice where
  | auto
  | always
  | never
  deriving DecidableEq

/-- Whether the value of a variable is the number zero, which may have a plus sign. -/
def isZero (value : String) : Bool :=
  let digits := match value.toList with
    | '+' :: digits => digits
    | digits => digits
  !digits.isEmpty && digits.all (· == '0')

/-- Whether the environment asks for colours on any stream. What is no number asks for them, too. -/
def forcesColor (environment : Environment) : Bool :=
  match environment.get? "FORCE_COLOR", environment.get? "CLICOLOR_FORCE" with
  | some value, _ => value != "false" && !isZero value
  | none, some value => value != "0"
  | none, none => false

/-- Whether the environment asks for no colours. -/
def refusesColor (environment : Environment) : Bool :=
  environment.isOn "NO_COLOR" || environment.isOneOf "TERM" ["dumb"]

/-- Whether the kind of a terminal is one that shows colours. -/
def isColorTerminal (kind : String) : Bool :=
  ["screen", "xterm", "vt100", "vt220", "rxvt"].any (·.toList.isPrefixOf kind.toList)
    || ["color", "ansi", "cygwin", "linux"].any (occurs ·.toList kind.toList)
    || ["256", "direct"].any (·.toList.isSuffixOf kind.toList)

/-- Whether the environment tells of something that shows colours. -/
def showsColor (environment : Environment) : Bool :=
  environment.has "COLORTERM"
    || ((environment.get? "TERM").map isColorTerminal).getD false
    || environment.isOneOf "TERM_PROGRAM" ["iTerm.app", "Apple_Terminal"]
    || environment.isOn "CLICOLOR"
    || environment.isService

/-- Whether output is coloured. The streams are not terminals, unless a variable has them taken for
terminals.
-/
def isColored : ColorChoice → Environment → Bool
  | .always, _ => true
  | .never, _ => false
  | .auto, environment =>
      forcesColor environment
        || (!refusesColor environment && environment.isOn "IGNORE_IS_TERMINAL"
          && showsColor environment)

/-- A colour of text, with its number. -/
inductive Color where
  | green
  | yellow

/-- The number of a colour in a control sequence. -/
def Color.code : Color → String
  | .green => "32"
  | .yellow => "33"

/-- Colours the text. -/
def paint (colored : Bool) (color : Color) (text : String) : String :=
  if colored then "\x1b[" ++ color.code ++ "m" ++ text ++ "\x1b[39m" else text

end Phrasebook.Command
