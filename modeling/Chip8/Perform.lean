import Chip8.Arithmetic
import Chip8.Instruction
import Chip8.Sprite
import Chip8.State

/-!
# What each instruction does

`State.perform` carries out one instruction on a state whose program counter is already past it. An
instruction that reaches past an array records a fault and goes on; discarding what it did is left
to the machine's cycle (`Chip8.Cycle`).

The two instructions that move many registers work on the whole window of sixteen addresses from
`I`, and a sprite is read as sixteen rows; of both only the part that the instruction names counts.
-/

namespace Chip8.State

variable (edge : Edge) (state : State)

/-- Returns past the call whose address is on top of the stack. -/
def ret : State :=
  { state with stack := state.stack.pop, pc := state.stack.top edge + 2 }
    |>.latch state.stack.isEmpty Fault.stackUnderflow.code

/-- Saves the address of the call itself and goes to the target. -/
def call (target : UInt16) : State :=
  { state with stack := state.stack.push (state.pc - 2), pc := target }
    |>.latch state.stack.isFull Fault.stackOverflow.code

/-- Writes an arithmetic result. The flag is written first, so that `VF` as a destination keeps the
result. -/
def setResult (x : Fin 16) (result : Arithmetic.Outcome) : State :=
  (state.setFlag result.flag).setRegister x result.value

/-- Applies an arithmetic operation to two registers. -/
def compute (operation : Int32 → Int32 → Arithmetic.Outcome) (x y : Fin 16) : State :=
  state.setResult x
    (operation (Arithmetic.operand (state.register x)) (Arithmetic.operand (state.register y)))

/-- Skips if the key that `VX` names is down, or if it is up. -/
def skipIfKey (x : Fin 16) (down : Bool) : State :=
  let key := state.register x
  (state.skipIf (readCell state.keypad edge.keypad key.toNat == down)).latch (16 ≤ key)
    Fault.keypad.code

/-- Takes the next random byte, masked. -/
def takeRandom (x : Fin 16) (mask : UInt8) : State :=
  { state.setRegister x (RandomKey.byte state.random &&& mask) with
    random := RandomKey.next state.random }

/-- The sprite at `I`, placed at `(VX, VY)`. -/
def sprite (x y height : Fin 16) : Sprite where
  rows := Vector.ofFn fun row => state.readMemory edge (state.index.toNat + row)
  height := height
  left := (state.register x).toNat
  top := (state.register y).toNat

/-- Draws the sprite; `VF` tells whether it met a lit cell. -/
def draw (x y height : Fin 16) : State :=
  let sprite := state.sprite edge x y height
  let pastMemory := 0 < height.val ∧ 0xFFF < state.index.toNat + height - 1
  { state with display := sprite.draw edge state.display, dirty := true }
    |>.setFlag (sprite.collides edge state.display)
    |>.latch pastMemory Fault.memory.code
    |>.latch sprite.isOffScreen Fault.display.code

/-- Takes the lowest key that is down, or starts to wait for one. -/
def awaitKey (x : Fin 16) : State :=
  match state.keypad.lowest? with
  | some key => state.setRegister x (UInt8.ofNat key)
  | none => { state with mode := Mode.awaitingKey, waitRegister := UInt8.ofNat x }

/-- Moves `I` on by `VX` within the twelve bits of an address; `VF` tells whether it left them. -/
def addIndex (x : Fin 16) : State :=
  let sum := state.index.toNat + (state.register x).toNat
  { state with index := UInt16.ofNat (sum % 0x1000) } |>.setFlag (0xFFF < sum)

/-- Writes bytes to memory from an address on. -/
def writeMemory (address : Nat) (bytes : List UInt8) : State :=
  { state with memory := state.memory.write address bytes }

/-- Writes the three decimal digits of `VX` at `I`. The check of the last address is done in sixteen
bits. -/
def storeDecimal (x : Fin 16) : State :=
  let value := state.register x
  state.writeMemory state.index.toNat [value / 100, value / 10 % 10, value % 10]
    |>.latch (0xFFF < state.index + 2) Fault.memory.code

/-- The bytes at the sixteen addresses from `I`. -/
def window : Registers :=
  Vector.ofFn fun place => state.readMemory edge (state.index.toNat + place)

/-- The address that goes with `VX` lies past memory. -/
def windowPastMemory (x : Fin 16) : Bool :=
  0xFFF < state.index.toNat + x

/-- The first cells of one file up to `x`, the others of another. -/
def spliceAt (x : Fin 16) (first rest : Registers) : Registers :=
  Vector.ofFn fun place => if place ≤ x then cellAt first place else cellAt rest place

/-- Writes `V0` to `VX` at `I` and the bytes behind them back as they were. -/
def storeRegisters (x : Fin 16) : State :=
  state.writeMemory state.index.toNat (spliceAt x state.registers (state.window edge)).toList
    |>.latch (state.windowPastMemory x) Fault.memory.code

/-- Reads `V0` to `VX` from memory at `I`. -/
def loadRegisters (x : Fin 16) : State :=
  { state with registers := spliceAt x (state.window edge) state.registers }
    |>.latch (state.windowPastMemory x) Fault.memory.code

/-- Carries out an instruction. -/
def performWith : Instruction → State
  | .clearScreen => { state with display := Vector.replicate 2048 false, dirty := true }
  | .ret => state.ret edge
  | .jump target => { state with pc := target }
  | .call target => state.call target
  | .skipEqByte x byte => state.skipIf (state.register x == byte)
  | .skipNeByte x byte => state.skipIf (state.register x != byte)
  | .skipEqRegister x y => state.skipIf (state.register x == state.register y)
  | .setByte x byte => state.setRegister x byte
  | .addByte x byte =>
    state.setResult x
      (Arithmetic.add (Arithmetic.operand (state.register x)) (Arithmetic.operand byte))
  | .copy x y => state.setRegister x (state.register y)
  | .or x y => state.setRegister x (state.register x ||| state.register y)
  | .and x y => state.setRegister x (state.register x &&& state.register y)
  | .xor x y => state.setRegister x (state.register x ^^^ state.register y)
  | .add x y => state.compute Arithmetic.add x y
  | .subtract x y => state.compute Arithmetic.subtract x y
  | .shiftRight x y => state.compute Arithmetic.shiftRight x y
  | .subtractFrom x y => state.compute Arithmetic.subtractFrom x y
  | .shiftLeft x y => state.compute Arithmetic.shiftLeft x y
  | .skipNeRegister x y => state.skipIf (state.register x != state.register y)
  | .setIndex address => { state with index := address }
  | .jumpOffset base => { state with pc := base + (state.register Registers.offset).toUInt16 }
  | .random x mask => state.takeRandom x mask
  | .draw x y height => state.draw edge x y height
  | .skipKeyDown x => state.skipIfKey edge x true
  | .skipKeyUp x => state.skipIfKey edge x false
  | .readDelay x => state.setRegister x state.delayTimer
  | .awaitKey x => state.awaitKey x
  | .setDelay x => { state with delayTimer := state.register x }
  | .setSound x => { state with soundTimer := state.register x }
  | .addIndex x => state.addIndex x
  | .glyph x =>
    { state with index := UInt16.ofNat (fontStart + (state.register x).toNat * glyphSize) }
  | .decimal x => state.storeDecimal x
  | .storeRegisters x => state.storeRegisters edge x
  | .loadRegisters x => state.loadRegisters edge x
  | .unknown _ => { state with unknownOpcode := true }

/-- Carries out the instruction that a word stands for. -/
def executeWith (word : Int32) : State :=
  state.performWith edge (Instruction.decode word)

/-- Carries out a word on the machine. -/
def execute (word : Int32) : State :=
  state.executeWith Edge.last word

end Chip8.State
