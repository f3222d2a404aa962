import Chip8.CommandLine.Switch

/-!
# The command line

A command line names one program and any number of switches, in any order. A switch may be shortened
as long as no other spelling starts in the same way, and its value follows as the next argument or
after an equals sign. The one short spelling, `-h`, may be repeated behind its dash. After `--` every
argument is taken as it stands.

Reading has two passes. The first marks every argument by itself as a value, a switch or neither; the
second goes through the marks from left to right and hands out the values.
-/

namespace Chip8.CommandLine

/-- What an argument is by its form. -/
inductive Mark where
  | value (text : String)
  /-- The bare `--`. -/
  | separator
  /-- A switch and the value behind its equals sign. -/
  | switch (which : Switch) (attached : Option String)
  /-- The letters that follow `-h`, directly or behind an equals sign. -/
  | helpLetters (letters : List Char)
  /-- It looks like a switch, but there is none like it. -/
  | stranger (text : String)
deriving DecidableEq, Repr

/-- The text before the first equals sign, and the text after it if there is one. -/
def splitAttached (text : String) : String × Option String :=
  match text.toList.span (· ≠ '=') with
  | (name, _ :: value) => (String.ofList name, some (String.ofList value))
  | (name, []) => (String.ofList name, none)

def isDigit (c : Char) : Bool := (Text.digitValue? c).isSome

/-- A text of at least one digit. -/
def isDigits (chars : List Char) : Bool := !chars.isEmpty && chars.all isDigit

/-- A minus sign and digits, with or without a decimal point before the last of them; one line end
may follow. -/
def looksNegative (text : String) : Bool :=
  match text.toList with
  | '-' :: rest =>
    let number := if rest.getLast? = some '\n' then rest.dropLast else rest
    isDigits number ||
      match number.span isDigit with
      | (_, '.' :: fraction) => isDigits fraction
      | _ => false
  | _ => false

/-- The spellings that a text may be short for, each with the value attached to it. -/
def candidates (text : String) : List (String × Mark) :=
  match text.toList with
  | '-' :: '-' :: _ =>
    let (name, attached) := splitAttached text
    (Switch.spellings.filter fun spelling => name.isPrefixOf spelling.1).map fun (spelling, which) =>
      (spelling, .switch which attached)
  | '-' :: 'h' :: letters => [("-h", .helpLetters letters)]
  | _ => []

/-- Marks a text that starts with a dash but is no spelling as it stands. -/
def markInexact (text : String) : Except UsageError Mark :=
  match candidates text with
  | [(_, mark)] => .ok mark
  | [] => .ok (if looksNegative text || text.toList.contains ' ' then .value text else .stranger text)
  | several => .error (.ambiguous text (several.map (·.1)))

/-- Marks a spelling with a value attached. The short spelling takes the value for more letters. -/
def markAttached (name : String) (which : Switch) (value : String) : Mark :=
  if name = "-h" ∧ value ≠ "" then .helpLetters value.toList else .switch which (some value)

/-- Marks an argument before the separator. -/
def markArgument (text : String) : Except UsageError Mark :=
  if !"-".isPrefixOf text then .ok (.value text)
  else match Switch.spellings.lookup text with
    | some which => .ok (.switch which none)
    | none =>
      if text = "-" then .ok (.value text)
      else match splitAttached text with
        | (name, some value) =>
          match Switch.spellings.lookup name with
          | some which => .ok (markAttached name which value)
          | none => markInexact text
        | (_, none) => markInexact text

/-- Marks all arguments. -/
def markAll : List String → Except UsageError (List Mark)
  | [] => .ok []
  | text :: rest =>
    if text = "--" then .ok (.separator :: rest.map .value)
    else do return (← markArgument text) :: (← markAll rest)

/-- What a command line asks for. -/
inductive Request where
  | help
  | run (program : String) (settings : Settings)
deriving DecidableEq, Repr

/-- What has been read so far. -/
structure Reading where
  program : Option String
  /-- The last mark was the program. -/
  adjacent : Bool
  settings : Settings
  /-- Arguments that no one takes. -/
  extras : List String
deriving DecidableEq, Repr

namespace Reading

def start : Reading := ⟨none, false, Settings.standard, []⟩

def setAside (reading : Reading) (text : String) : Reading :=
  { reading with extras := reading.extras ++ [text], adjacent := false }

/-- The first value is the program. -/
def take (reading : Reading) (text : String) : Reading :=
  match reading.program with
  | none => { reading with program := some text, adjacent := true }
  | some _ => reading.setAside text

/-- A separator before the program or right behind it belongs to it. -/
def separate (reading : Reading) : Reading :=
  if reading.program.isNone || reading.adjacent then { reading with adjacent := false }
  else reading.setAside "--"

def assign (reading : Reading) (switch : Switch) (value : String) : Except UsageError Reading := do
  return { reading with settings := ← reading.settings.assign switch value, adjacent := false }

def setStrict (reading : Reading) : Reading :=
  { reading with settings := { reading.settings with strict := true }, adjacent := false }

/-- The program must be there, and nothing may be left over. -/
def finish (reading : Reading) : Except UsageError Request :=
  match reading.program, reading.extras with
  | none, _ => .error .missingProgram
  | some program, [] => .ok (.run program reading.settings)
  | some _, extras => .error (.unrecognized extras)

end Reading

/-- The letters behind `-h` must be more of the same. -/
def readLetters : List Char → Except UsageError Request
  | [] => .ok .help
  | 'h' :: rest => readLetters rest
  | letters => .error (.unwantedValue .help (String.ofList letters))

/-- Hands out the values of the marks from left to right. -/
def readMarks (reading : Reading) : List Mark → Except UsageError Request
  | [] => reading.finish
  | .value text :: rest => readMarks (reading.take text) rest
  | .separator :: rest => readMarks reading.separate rest
  | .stranger text :: rest => readMarks (reading.setAside text) rest
  | .helpLetters letters :: _ => readLetters letters
  | .switch which (some value) :: rest =>
    if which.takesValue then do readMarks (← reading.assign which value) rest
    else .error (.unwantedValue which value)
  | .switch .help none :: _ => .ok .help
  | .switch .strict none :: rest => readMarks reading.setStrict rest
  | .switch which none :: .value value :: rest => do
    readMarks (← reading.assign which value) rest
  | .switch which none :: _ => .error (.missingValue which)

/-- Reads a command line. -/
def parse (arguments : List String) : Except UsageError Request := do
  readMarks Reading.start (← markAll arguments)

end Chip8.CommandLine
