import Chip8.Log.Console
import Chip8.Palette

/-!
# A session in a window

A session shows a machine in a window. It works in frames: in each it waits for the clock, handles
the events that came in, takes one step unless it is paused, and draws the display if that changed.
Escape ends the session, P pauses and resumes it, F5 loads the program into a reset machine; a block
of sixteen keys is the machine's keypad. When the machine halts the session pauses.

What a session does to the window and prints is a list of effects, so that a whole session is a
function of the events of its frames.
-/

namespace Chip8

/-- A key of the host's keyboard: `F5`, or the key of a character. -/
inductive HostKey where
  | f5
  | character (c : Char)
deriving DecidableEq, Repr

namespace HostKey

def escape : HostKey := .character '\x1b'

def pause : HostKey := .character 'p'

/-- The block of characters that stands for the keypad, row by row. -/
def block : List (Char × Nat) := [
  ('1', 0x1), ('2', 0x2), ('3', 0x3), ('4', 0xC),
  ('q', 0x4), ('w', 0x5), ('e', 0x6), ('r', 0xD),
  ('a', 0x7), ('s', 0x8), ('d', 0x9), ('f', 0xE),
  ('z', 0xA), ('x', 0x0), ('c', 0xB), ('v', 0xF)]

/-- The keypad's key that a host's key stands for. -/
def keypad? : HostKey → Option Nat
  | .f5 => none
  | .character c => block.lookup c

end HostKey

/-- What the host reports to a session. -/
inductive HostEvent where
  | quit
  | keyDown (key : HostKey)
  | keyUp (key : HostKey)
  | other
deriving DecidableEq, Repr

/-- What a session does to its host. -/
inductive Effect where
  | open
  | setSize (width height : Int)
  | setCaption (text : String)
  /-- Waits for the next of so many frames in a second. -/
  | tick (rate : Int)
  /-- Copies a surface to the window's top left corner. -/
  | show (surface : Surface)
  | flip
  | close
  | print (text : String)

/-- Why a session ends early, or does not start. -/
inductive SessionError where
  | unknownLevel (name : String)
  | unknownPalette (name : String)
  | missingProgram (path : String)
  | badSeed (seed : Int)
  | machine (failure : Failure)
  | picture (error : PictureError)
deriving DecidableEq, Repr

def SessionError.message : SessionError → String
  | .unknownLevel name => Log.unknownLevelMessage name
  | .unknownPalette name => Palette.unknownMessage name
  | .missingProgram path => "[Errno 2] No such file or directory: " ++ Text.quoted path
  | .badSeed seed => "seed " ++ toString seed ++ " does not fit in 64 bits"
  | .machine failure => failure.message
  | .picture error => error.message

/-- How a session is set up. -/
structure SessionOptions where
  path : String
  scale : Int
  rate : Int
  seed : Int
  palette : String
  strict : Bool
  logLevel : String
deriving DecidableEq, Repr

structure Session where
  machine : Machine
  program : Program
  logger : Log.Logger
  clock : Log.Clock
  palette : Palette
  scale : Int
  rate : Int
  paused : Bool
  running : Bool

namespace Session

/-- A session under way: where it stands, what it did so far, and why it broke off, if it did. -/
structure Progress where
  session : Session
  effects : List Effect
  error : Option SessionError

/-- Does the next thing, unless the session broke off. -/
def Progress.andThen (progress : Progress) (next : Session → Progress) : Progress :=
  match progress.error with
  | some _ => progress
  | none =>
    let rest := next progress.session
    { rest with effects := progress.effects ++ rest.effects }

/-- Nothing is done. -/
def idle (session : Session) : Progress := ⟨session, [], none⟩

/-- Prints a text, unless it is empty. -/
def printed (text : String) : List Effect :=
  if text = "" then [] else [.print text]

/-- What is printed for one event of the machine: a line, if the level asks for one, and the bell. -/
def announce (logger : Log.Logger) (clock : Log.Clock) (event : Event) :
    List Effect × Log.Clock :=
  let (line, clock) := logger.report clock event
  (printed line ++ printed (Log.bell event), clock)

/-- What is printed for events of the machine. -/
def announceAll (logger : Log.Logger) (clock : Log.Clock) (events : List Event) :
    List Effect × Log.Clock :=
  events.foldl
    (fun (effects, clock) event =>
      let (announced, clock) := announce logger clock event
      (effects ++ announced, clock))
    ([], clock)

/-- Takes over what an operation of the machine left and prints its events. -/
def adopt {α : Type} (session : Session) (outcome : Machine.Outcome α) : Session × List Effect :=
  let (effects, clock) := announceAll session.logger session.clock outcome.events
  ({ session with machine := outcome.machine, clock := clock }, effects)

/-- An operation of the machine; if it fails the session breaks off. -/
def operate {α : Type} (session : Session) (operation : Machine → Machine.Outcome α) : Progress :=
  let outcome := operation session.machine
  let (session, effects) := session.adopt outcome
  match outcome.result with
  | .ok _ => ⟨session, effects, none⟩
  | .error failure => ⟨session, effects, some (.machine failure)⟩

/-! ## Events of the host -/

/-- Resets the machine, loads the program again and goes on running. -/
def restart (session : Session) : Progress :=
  (session.operate Machine.reset).andThen fun session =>
    (session.operate (·.load session.program)).andThen fun session =>
      idle { session with paused := false }

/-- A key of the keypad goes down or up; any other key is ignored. -/
def moveKey (session : Session) (key : HostKey) (down : Bool) : Progress :=
  match key.keypad? with
  | some key => session.operate (·.setKey key down)
  | none => session.idle

/-- Handles one event. -/
def handle (session : Session) : HostEvent → Progress
  | .quit => idle { session with running := false }
  | .keyDown key =>
    if key = .escape then idle { session with running := false }
    else if key = .pause then idle { session with paused := !session.paused }
    else if key = .f5 then session.restart
    else session.moveKey key true
  | .keyUp key => session.moveKey key false
  | .other => session.idle

/-- Handles events in order. -/
def handleAll (session : Session) (events : List HostEvent) : Progress :=
  events.foldl (fun progress event => progress.andThen (·.handle event)) session.idle

/-! ## Frames -/

/-- Takes a step unless the session is paused. A machine that halts pauses the session. -/
def advance (session : Session) : Progress :=
  if session.paused then session.idle
  else
    let outcome := session.machine.step
    let (session, effects) := session.adopt outcome
    match outcome.result with
    | .ok () => ⟨session, effects, none⟩
    | .error (.outOfRange ..) => ⟨{ session with paused := true }, effects, none⟩
    | .error failure => ⟨session, effects, some (.machine failure)⟩

/-- Shows cells of a display in the window. -/
def present (session : Session) (cells : Display) : Progress :=
  match Picture.render cells.toList session.scale session.palette with
  | .ok picture => ⟨session, [.show (Surface.ofArray picture.swapAxes), .flip], none⟩
  | .error error => ⟨session, [], some (.picture error)⟩

/-- Draws the display if it was written since it was read last: reads it and shows what was read. -/
def draw (session : Session) : Progress :=
  if session.machine.displayDirty then
    let outcome := session.machine.readDisplay
    let (session, effects) := session.adopt outcome
    match outcome.result with
    | .ok cells => (⟨session, effects, none⟩ : Progress).andThen (·.present cells)
    | .error failure => ⟨session, effects, some (.machine failure)⟩
  else session.idle

/-- One frame. -/
def frame (session : Session) (events : List HostEvent) : Progress :=
  (⟨session, [.tick session.rate], none⟩ : Progress)
    |>.andThen (·.handleAll events)
    |>.andThen advance
    |>.andThen draw

/-- The frames of a session until it is left; after the last frame that is given the host asks it to
quit. -/
def frames (session : Session) : List (List HostEvent) → Progress
  | [] => (session.frame [.quit]).andThen fun session => ⟨session, [.close], none⟩
  | events :: rest =>
    (session.frame events).andThen fun session =>
      if session.running then session.frames rest else ⟨session, [.close], none⟩

/-! ## Start -/

/-- The session of a loaded program, its window not yet open. `program` is what the path holds, if
anything; `terminal` tells whether texts are printed on a terminal. -/
def load (options : SessionOptions) (program : Option Program) (terminal : Bool)
    (clock : Log.Clock) : Except SessionError Progress := do
  let some (logger, clock) := Log.Logger.create? "chip8" options.logLevel true terminal true clock
    | throw (.unknownLevel options.logLevel)
  let some palette := Palette.ofName? options.palette
    | throw (.unknownPalette options.palette)
  let some program := program
    | throw (.missingProgram options.path)
  let some random := RandomKey.ofSeed? options.seed
    | throw (.badSeed options.seed)
  let session : Session := {
    machine := Machine.fresh random options.strict
    program, logger, clock, palette
    scale := options.scale, rate := options.rate
    paused := false, running := true }
  return session.operate (·.load program)

/-- Opens the window and says which keys lead on. -/
def openWindow (path : String) (session : Session) : Progress :=
  let (line, clock) := session.logger.log session.clock .info
    "Controls: ESC=Quit, P=Pause, F5=Reset"
  let opened := [
    .open, .setSize (64 * session.scale) (32 * session.scale), .setCaption ("CHIP-8 - " ++ path)]
  ⟨{ session with clock := clock }, opened ++ printed line, none⟩

/-- A whole session: what it does, and why it breaks off, if it does. -/
def run (options : SessionOptions) (program : Option Program) (terminal : Bool)
    (clock : Log.Clock) (events : List (List HostEvent)) : List Effect × Option SessionError :=
  match load options program terminal clock with
  | .error error => ([], some error)
  | .ok progress =>
    let progress := (progress.andThen (openWindow options.path)).andThen (·.frames events)
    (progress.effects, progress.error)

end Session

end Chip8
