import Chip8.Log.Level
import Chip8.Text.FixedPoint

/-!
# Log lines

A logger prints a message as a line when the message weighs at least as much as the logger asks for.
A line starts with the seconds since the logger was made, if the logger shows them, then names the
level and the logger. On a terminal the level is coloured.
-/

namespace Chip8.Log

/-- The readings that a clock gives, one after the other; the last one repeats. -/
structure Clock where
  readings : List Float
deriving Repr

/-- The next reading; a clock without readings stands at zero. -/
def Clock.read (clock : Clock) : Float × Clock :=
  match clock.readings with
  | [] => (0, clock)
  | [last] => (last, clock)
  | next :: rest => (next, ⟨rest⟩)

/-- A clock that always gives the same reading. -/
def Clock.still (reading : Float) : Clock := ⟨[reading]⟩

structure Logger where
  name : String
  level : Level
  /-- Levels are coloured. -/
  colours : Bool
  /-- Lines start with the time. -/
  timestamps : Bool
  /-- When the logger was made. -/
  start : Float
deriving Repr

namespace Logger

/-- A logger for messages from the named level on. Colours need a terminal. -/
def create? (name levelName : String) (colours terminal timestamps : Bool) (clock : Clock) :
    Option (Logger × Clock) :=
  match Level.ofName? levelName with
  | none => none
  | some level =>
    let (start, rest) := clock.read
    some (⟨name, level, colours && terminal, timestamps, start⟩, rest)

def accepts (logger : Logger) (level : Level) : Bool :=
  logger.level.weight ≤ level.weight

/-- The level in brackets, eight characters wide, between its colour and the colour's end. -/
def badge (logger : Logger) (level : Level) : String :=
  let plain := "[" ++ String.ofList (Text.padLeft 8 level.name.toList) ++ "]"
  if logger.colours then "\x1b[" ++ level.colour ++ "m" ++ plain ++ "\x1b[0m" else plain

/-- The seconds since the logger was made, with two places, eight characters wide. -/
def stamp (logger : Logger) (now : Float) : String :=
  "[" ++ String.ofList (Text.padLeft 8 (Text.fixed 2 (now - logger.start))) ++ "s]"

/-- What follows the time in a line, the line's end included. -/
def body (logger : Logger) (level : Level) (message : String) : String :=
  logger.badge level ++ "[" ++ logger.name ++ "] " ++ message ++ "\n"

/-- What is printed for a message. The clock is read only for a line that shows the time. -/
def log (logger : Logger) (clock : Clock) (level : Level) (message : String) : String × Clock :=
  if logger.accepts level then
    if logger.timestamps then
      let (now, rest) := clock.read
      (logger.stamp now ++ logger.body level message, rest)
    else (logger.body level message, clock)
  else ("", clock)

end Logger

end Chip8.Log
