import Chip8.Log.Logger
import Chip8.Machine

/-!
# A machine's events as log lines

Loads, unknown words, faults, tones and resets are logged, each on its level; steps are not. Tones can
also ring the terminal's bell.
-/

namespace Chip8.Log

/-- The level and the text under which an event is logged. -/
def entry? : Event → Option (Level × String)
  | .reset => some (.debug, "Machine reset")
  | .loaded size => some (.info, "Loaded " ++ toString size ++ " bytes at 0x200")
  | .stepped _ => none
  | .unknownOpcode opcode address =>
    some (.warning, "Unknown opcode: " ++ wordAndAddress opcode address)
  | .tone => some (.debug, "Tone")
  | .halted fault address opcode =>
    some (.error, "Machine halted: " ++ (Failure.outOfRange fault address opcode).message)

/-- What a logger prints for an event. -/
def Logger.report (logger : Logger) (clock : Clock) (event : Event) : String × Clock :=
  match entry? event with
  | none => ("", clock)
  | some (level, text) => logger.log clock level text

/-- What a logger prints for events in order. -/
def Logger.reportAll (logger : Logger) (clock : Clock) (events : List Event) : String × Clock :=
  events.foldl
    (fun (printed, clock) event =>
      let (line, clock) := logger.report clock event
      (printed ++ line, clock))
    ("", clock)

/-- What the bell prints for an event: it rings on a tone. -/
def bell : Event → String
  | .tone => "\x07"
  | _ => ""

end Chip8.Log
