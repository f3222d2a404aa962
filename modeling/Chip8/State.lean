import Chip8.CallStack
import Chip8.Fault
import Chip8.Layout
import Chip8.Random

/-!
# The state of a machine

Everything a machine remembers between two steps, and the few changes that many instructions share.
-/

namespace Chip8

/-- Whether a machine runs or waits for a key, as its one-byte code. -/
abbrev Mode := UInt8

def Mode.running : Mode := 0

def Mode.awaitingKey : Mode := 1

structure State where
  memory : Memory
  registers : Registers
  /-- The index register `I`. -/
  index : UInt16
  /-- The program counter. -/
  pc : UInt16
  stack : CallStack
  display : Display
  /-- Set when the display is written, cleared when a host reads it. -/
  dirty : Bool
  delayTimer : UInt8
  soundTimer : UInt8
  keypad : Keypad
  /-- The random numbers still to come. -/
  random : RandomKey
  mode : Mode
  /-- The register that takes the key of a pending wait. -/
  waitRegister : UInt8
  /-- The code of the fault that halted the machine. -/
  fault : UInt8
  /-- The word fetched last. -/
  opcode : UInt16
  /-- The last step met a word that matches no pattern. -/
  unknownOpcode : Bool
  /-- The last step counted the sound timer down to zero. -/
  tone : Bool
deriving DecidableEq, Repr

namespace State

/-- The memory of a fresh machine: the font in its place, and zeros. -/
def initialMemory : Memory :=
  Memory.write (Vector.replicate 4096 0) fontStart font.toList

/-- A fresh machine, whose display has yet to be shown. -/
def initial (random : RandomKey) : State where
  memory := initialMemory
  registers := Vector.replicate 16 0
  index := 0
  pc := UInt16.ofNat programStart
  stack := CallStack.empty
  display := Vector.replicate 2048 false
  dirty := true
  delayTimer := 0
  soundTimer := 0
  keypad := Vector.replicate 16 false
  random := random
  mode := Mode.running
  waitRegister := 0
  fault := Fault.healthy
  opcode := 0
  unknownOpcode := false
  tone := false

/-- Records a fault if the condition holds and no earlier fault is recorded. -/
def latch (state : State) (condition : Bool) (code : UInt8) : State :=
  { state with
    fault := if condition && state.fault == Fault.healthy then code else state.fault }

/-- Memory at an address. -/
def readMemory (edge : Edge) (state : State) (address : Nat) : UInt8 :=
  readCell state.memory edge.memory address

/-- Reads a register. -/
def register (state : State) (x : Fin 16) : UInt8 :=
  cellAt state.registers x

/-- Writes a register. -/
def setRegister (state : State) (x : Fin 16) (byte : UInt8) : State :=
  { state with registers := putCell state.registers x byte }

theorem register_setRegister (state : State) (x other : Fin 16) (byte : UInt8) :
    (state.setRegister x byte).register other = if x = other then byte else state.register other :=
  cellAt_putCell ..

theorem setRegister_register (state : State) (x : Fin 16) :
    state.setRegister x (state.register x) = state := by
  have same : putCell state.registers x (cellAt state.registers x) = state.registers :=
    Vector.set_getElem_self _
  rw [setRegister, register, same]

/-- Writes a flag to `VF`, as a zero or a one. -/
def setFlag (state : State) (flag : Bool) : State :=
  state.setRegister Registers.flag (if flag then 1 else 0)

/-- Moves past the next instruction if the condition holds. -/
def skipIf (state : State) (condition : Bool) : State :=
  if condition then { state with pc := state.pc + 2 } else state

end State

end Chip8
