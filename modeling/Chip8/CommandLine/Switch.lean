import Chip8.Text.Numeral
import Chip8.Text.Quoted

/-!
# Switches of the command line

The switches, the settings they change, and the ways in which a command line can be wrong.
-/

namespace Chip8.CommandLine

inductive Switch where
  | help | scale | rate | seed | colorScheme | strict | logLevel
deriving DecidableEq, Repr

namespace Switch

/-- All spellings, in the order in which they are tried. -/
def spellings : List (String × Switch) := [
  ("-h", .help), ("--help", .help), ("--scale", .scale), ("--rate", .rate), ("--seed", .seed),
  ("--color-scheme", .colorScheme), ("--strict", .strict), ("--log-level", .logLevel)]

/-- The switch as messages name it. -/
def title : Switch → String
  | .help => "-h/--help"
  | .scale => "--scale"
  | .rate => "--rate"
  | .seed => "--seed"
  | .colorScheme => "--color-scheme"
  | .strict => "--strict"
  | .logLevel => "--log-level"

/-- Help and strict stand alone; every other switch has a value. -/
def takesValue : Switch → Bool
  | .help => false
  | .strict => false
  | _ => true

end Switch

/-- What is wrong with a command line. -/
inductive UsageError where
  | ambiguous (text : String) (candidates : List String)
  | missingValue (switch : Switch)
  | unwantedValue (switch : Switch) (value : String)
  | notAnInteger (switch : Switch) (value : String)
  | missingProgram
  | unrecognized (texts : List String)
deriving DecidableEq, Repr

def UsageError.message : UsageError → String
  | .ambiguous text candidates =>
    "ambiguous option: " ++ text ++ " could match " ++ ", ".intercalate candidates
  | .missingValue switch => "argument " ++ switch.title ++ ": expected one argument"
  | .unwantedValue switch value =>
    "argument " ++ switch.title ++ ": ignored explicit argument " ++ Text.quoted value
  | .notAnInteger switch value =>
    "argument " ++ switch.title ++ ": invalid int value: " ++ Text.quoted value
  | .missingProgram => "the following arguments are required: rom"
  | .unrecognized texts => "unrecognized arguments: " ++ " ".intercalate texts

/-- What the switches set. A switch whose value was taken away leaves its setting without one. -/
structure Settings where
  scale : Option Int
  rate : Option Int
  seed : Option Int
  colorScheme : Option String
  strict : Bool
  logLevel : Option String
deriving DecidableEq, Repr

namespace Settings

/-- The settings of a command line without switches. -/
def standard : Settings where
  scale := some 8
  rate := some 60
  seed := some 0
  colorScheme := some "classic"
  strict := false
  logLevel := some "INFO"

/-- The text that a switch is given. A bare `--` is a separator also there and is taken away. -/
def text (value : String) : Option String :=
  if value = "--" then none else some value

/-- The integer that a switch is given, unless its text was taken away. -/
def integer (switch : Switch) (value : String) : Except UsageError (Option Int) :=
  match text value with
  | none => .ok none
  | some digits =>
    match Text.integer? digits with
    | some number => .ok (some number)
    | none => .error (.notAnInteger switch value)

/-- The settings with a switch and its value; a switch without one changes nothing here. -/
def assign (settings : Settings) (switch : Switch) (value : String) :
    Except UsageError Settings := do
  match switch with
  | .scale => return { settings with scale := ← integer switch value }
  | .rate => return { settings with rate := ← integer switch value }
  | .seed => return { settings with seed := ← integer switch value }
  | .colorScheme => return { settings with colorScheme := text value }
  | .logLevel => return { settings with logLevel := text value }
  | .help | .strict => return settings

end Settings

end Chip8.CommandLine
