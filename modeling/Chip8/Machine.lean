import Chip8.Cycle
import Chip8.Program

/-!
# A machine and its host

A host drives a machine by operations: reset, load, step, keys and looks at the display and the sound.
An operation yields the machine it leaves, the events it reports in order, and an answer or the
reason why it failed. A failed operation leaves a machine too: a step that halts the machine has
recorded why, and a strict step past an unknown word has been taken.

A machine that is halted by a fault fails every step in the same way until it is reset.
-/

namespace Chip8

/-- What a machine reports to those who watch it. -/
inductive Event where
  /-- The state was built anew. -/
  | reset
  /-- A program of so many bytes was copied to memory. -/
  | loaded (size : Int)
  /-- A step was taken, also one that faulted, and left this state. -/
  | stepped (after : State)
  /-- A step passed a word that matches no pattern. -/
  | unknownOpcode (opcode address : Int)
  /-- The sound timer reached zero. -/
  | tone
  /-- A step faulted and halted the machine. -/
  | halted (fault address opcode : Int)
deriving Repr

structure Machine where
  /-- The random stream that every reset starts again. -/
  random : RandomKey
  /-- An unknown word fails the step that passes it. -/
  strict : Bool
  state : State
deriving DecidableEq, Repr

namespace Machine

/-- What an operation yields. -/
structure Outcome (α : Type) where
  machine : Machine
  events : List Event
  result : Except Failure α

/-- A machine in its reset state. -/
def fresh (random : RandomKey) (strict : Bool) : Machine :=
  ⟨random, strict, State.initial random⟩

/-- Builds the state anew; the random stream starts again. -/
def reset (machine : Machine) : Outcome Unit :=
  ⟨{ machine with state := State.initial machine.random }, [.reset], .ok ()⟩

/-- Copies a program to memory. -/
def load (machine : Machine) (program : Program) : Outcome Unit :=
  match machine.state.load program with
  | .ok state => ⟨{ machine with state := state }, [.loaded program.size], .ok ()⟩
  | .error failure => ⟨machine, [], .error failure⟩

def isHalted (machine : Machine) : Bool :=
  machine.state.fault != Fault.healthy

/-- Why a halted machine fails: its fault, with the instruction that caused it. -/
def haltFailure (state : State) : Failure :=
  .outOfRange state.fault.toNat state.pc.toNat state.opcode.toNat

/-- The event of a step that halted the machine. -/
def haltEvent (state : State) : Event :=
  .halted state.fault.toNat state.pc.toNat state.opcode.toNat

/-- One step. -/
def step (machine : Machine) : Outcome Unit :=
  if machine.isHalted then ⟨machine, [], .error (haltFailure machine.state)⟩
  else
    let after := machine.state.step
    let stepped := { machine with state := after }
    if stepped.isHalted then ⟨stepped, [.stepped after, haltEvent after], .error (haltFailure after)⟩
    else
      let tone := if after.tone then [.tone] else []
      if after.unknownOpcode then
        let opcode := after.opcode.toNat
        let address := machine.state.pc.toNat
        ⟨stepped, .stepped after :: tone ++ [.unknownOpcode opcode address],
          if machine.strict then .error (.unknownOpcode opcode address) else .ok ()⟩
      else ⟨stepped, .stepped after :: tone, .ok ()⟩

/-- Marks a key as down or up. -/
def setKey (machine : Machine) (key : Int) (down : Bool) : Outcome Unit :=
  if 0 ≤ key ∧ key < 16 then
    let keypad := machine.state.keypad.setIfInBounds key.toNat down
    ⟨{ machine with state := { machine.state with keypad := keypad } }, [], .ok ()⟩
  else ⟨machine, [], .error (.invalidKey key)⟩

/-- Whether the display was written since it was read last. -/
def displayDirty (machine : Machine) : Bool := machine.state.dirty

/-- The display, which from now on counts as read. -/
def readDisplay (machine : Machine) : Outcome Display :=
  ⟨{ machine with state := { machine.state with dirty := false } }, [], .ok machine.state.display⟩

/-- Whether the sound timer is running. -/
def soundActive (machine : Machine) : Bool := 0 < machine.state.soundTimer

/-! ## Operations as values -/

/-- What a host can ask of a machine. -/
inductive Command where
  | reset
  | load (program : Program)
  | step
  | keyDown (key : Int)
  | keyUp (key : Int)
  | displayDirty
  | readDisplay
  | soundActive
deriving DecidableEq, Repr

/-- What a machine answers. -/
inductive Answer where
  | nothing
  | truth (value : Bool)
  | cells (display : Display)
deriving DecidableEq, Repr

/-- The same outcome with another form of answer. -/
def Outcome.map {α β : Type} (form : α → β) (outcome : Outcome α) : Outcome β :=
  ⟨outcome.machine, outcome.events, outcome.result.map form⟩

/-- Does what the host asks. -/
def obey (machine : Machine) : Command → Outcome Answer
  | .reset => machine.reset.map fun _ => .nothing
  | .load program => (machine.load program).map fun _ => .nothing
  | .step => machine.step.map fun _ => .nothing
  | .keyDown key => (machine.setKey key true).map fun _ => .nothing
  | .keyUp key => (machine.setKey key false).map fun _ => .nothing
  | .displayDirty => ⟨machine, [], .ok (.truth machine.displayDirty)⟩
  | .readDisplay => machine.readDisplay.map .cells
  | .soundActive => ⟨machine, [], .ok (.truth machine.soundActive)⟩

/-- What the host asks, one after the other, whatever fails on the way. -/
def obeyAll (machine : Machine) : List Command → List (Outcome Answer)
  | [] => []
  | command :: rest =>
    let outcome := machine.obey command
    outcome :: outcome.machine.obeyAll rest

/-- The machine that a sequence of operations leaves. -/
def after (machine : Machine) (commands : List Command) : Machine :=
  commands.foldl (fun machine command => (machine.obey command).machine) machine

/-! ## Several steps -/

/-- What a run of steps yields: how many were completed, and why the next one failed, if it did. -/
structure Run where
  machine : Machine
  events : List Event
  completed : Nat
  failure : Option Failure

/-- Up to `count` steps, ended by the first that fails. -/
def run (machine : Machine) : Nat → Run
  | 0 => ⟨machine, [], 0, none⟩
  | count + 1 =>
    let outcome := machine.step
    match outcome.result with
    | .error failure => ⟨outcome.machine, outcome.events, 0, some failure⟩
    | .ok () =>
      let rest := outcome.machine.run count
      { rest with events := outcome.events ++ rest.events, completed := rest.completed + 1 }

end Machine

end Chip8
