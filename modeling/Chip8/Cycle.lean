import Chip8.Perform

/-!
# The machine's cycle

One step of a running machine fetches the word at the program counter, carries it out and counts the
timers down. A step that records a fault is discarded: only the fault and the word that was fetched
remain, and the machine stays as it is from then on. While a machine waits for a key a step only
looks at the keypad, and the timers stand still.
-/

namespace Chip8.State

/-- What a fetch yields: the state behind the word, and the word. -/
@[ext]
structure Fetched where
  state : State
  word : UInt16
deriving DecidableEq, Repr

/-- Reads the word at the program counter, notes it and moves past it. The check of the second byte's
address is done in sixteen bits. -/
def fetchWith (edge : Edge) (state : State) : Fetched :=
  let high := state.readMemory edge state.pc.toNat
  let low := state.readMemory edge (state.pc + 1).toNat
  let word := high.toUInt16 <<< 8 ||| low.toUInt16
  let behind := { state with pc := state.pc + 2, opcode := word }
    |>.latch (0xFFF < state.pc + 1) Fault.memory.code
  ⟨behind, word⟩

/-- Counts both timers down and reports the tone of a sound timer that was at one. -/
def tick (state : State) : State :=
  { state with
    delayTimer := if 0 < state.delayTimer then state.delayTimer - 1 else state.delayTimer
    soundTimer := if 0 < state.soundTimer then state.soundTimer - 1 else state.soundTimer
    tone := state.soundTimer == 1 }

/-- Keeps what a step did, unless it recorded a fault. -/
def commit (before after : State) : State :=
  if after.fault = Fault.healthy then after
  else { before with fault := after.fault, opcode := after.opcode }

/-- Counts the timers down unless the machine waits for a key. -/
def tickIfRunning (state : State) : State :=
  if state.mode = Mode.running then state.tick else state

/-- One instruction: fetched, carried out, timed and committed. -/
def cycleWith (edge : Edge) (state : State) : State :=
  let fetched := state.fetchWith edge
  let executed := fetched.state.executeWith edge fetched.word.toUInt32.toInt32
  state.commit executed.tickIfRunning

/-- Ends a pending wait if a key is down. -/
def pollKeypad (state : State) : State :=
  match state.keypad.lowest? with
  | some key =>
    tick
      { state with
        registers := state.registers.setIfInBounds state.waitRegister.toNat (UInt8.ofNat key)
        mode := Mode.running }
  | none => state

/-- Withdraws what the last step reported. -/
def clearReports (state : State) : State :=
  { state with unknownOpcode := false, tone := false }

/-- One step, with a choice of what lies past the arrays. -/
def stepWith (edge : Edge) (state : State) : State :=
  let cleared := state.clearReports
  if cleared.fault = Fault.healthy then
    if cleared.mode = Mode.running then cleared.cycleWith edge else cleared.pollKeypad
  else cleared

/-- Reads the word at the program counter. -/
def fetch (state : State) : Fetched := state.fetchWith Edge.last

/-- One step of the machine. -/
def step (state : State) : State := state.stepWith Edge.last

end Chip8.State
