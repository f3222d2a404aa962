import Chip8.CommandLine
import Chip8.Session.Terminal

/-!
# The program

Reads the command line, loads the program it names and plays a session on the terminal, one frame for
each line of standard input. The session and every text are those of the library; here they only
meet the clock, the files and the terminal.
-/

namespace Chip8

def usage : String :=
  "usage: chip8 [-h] [--scale SCALE] [--rate RATE] [--seed SEED] [--color-scheme COLOR_SCHEME] " ++
    "[--strict] [--log-level LOG_LEVEL] rom"

/-- The session that settings ask for, if none of them is left without a value. -/
def CommandLine.Settings.session? (settings : CommandLine.Settings) (path : String) :
    Option SessionOptions := do
  return {
    path
    scale := ← settings.scale
    rate := ← settings.rate
    seed := ← settings.seed
    palette := ← settings.colorScheme
    strict := settings.strict
    logLevel := ← settings.logLevel }

/-- Does one thing that a session asks for. -/
def Effect.perform (effect : Effect) : IO Unit := do
  match effect with
  | .tick rate => if 0 < rate then IO.sleep (UInt32.ofNat (1000 / rate.toNat))
  | other => IO.print other.onTerminal

/-- Does what a session asked for, then leads on or ends with the exit code. -/
partial def play (progress : Session.Progress) : IO UInt32 := do
  progress.effects.forM Effect.perform
  match progress.error with
  | some error =>
    IO.eprintln error.message
    return 1
  | none =>
    if progress.session.running then
      let line ← (← IO.getStdin).getLine
      let events := if line.isEmpty then [.quit] else HostEvent.ofLine line
      let now := (← IO.monoMsNow).toFloat / 1000
      play ({ progress.session with clock := Log.Clock.still now }.frame events)
    else
      Effect.perform .close
      return 0

/-- The bytes of a file, if it can be read. -/
def readProgram (path : String) : IO (Option Program) := do
  try
    return some (← IO.FS.readBinFile path).data
  catch _ =>
    return none

end Chip8

open Chip8 in
def main (arguments : List String) : IO UInt32 := do
  match CommandLine.parse arguments with
  | .ok .help =>
    IO.println usage
    return 0
  | .error error =>
    IO.eprintln (usage ++ "\nchip8: error: " ++ error.message)
    return 2
  | .ok (.run path settings) =>
    let some options := settings.session? path
      | do
        IO.eprintln "chip8: error: a switch was given no value"
        return 2
    let program ← readProgram path
    let terminal ← (← IO.getStdout).isTty
    let now := (← IO.monoMsNow).toFloat / 1000
    match Session.load options program terminal (Log.Clock.still now) with
    | .error error =>
      IO.eprintln error.message
      return 1
    | .ok progress => play (progress.andThen (Session.openWindow path))
