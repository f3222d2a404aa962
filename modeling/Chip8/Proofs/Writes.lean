import Chip8.Proofs.Effect
import Chip8.Proofs.Window

/-!
# What an instruction writes

Two instructions write memory, from `I` on: the digits of a number, and the registers up to `VX`.
What they write depends on the registers alone, although a store goes through sixteen addresses and
writes back what it finds behind its last one. The other instructions write at most registers, each
the one that it names, `VF`, or those up to `VX`.

Results:
1. `cellAt_write_of_outside`, `cellAt_write_of_inside`: a byte of memory after bytes are written.
2. `performWith_memory`: memory after every instruction.
3. `register_performWith_of_not_writes`, `performWith_keypad`: the registers that an instruction
   leaves, and the keypad, which all leave.
4. `length_bytesWritten_decode`, `writes_decode`: what a word writes, by its kind.
-/

namespace Chip8

/-! ## Bytes written to memory -/

section

variable {memory : Memory} {address : Nat} {bytes : List UInt8} {place : Fin 4096}

theorem cellAt_write_of_outside
    (outside : place.val < address ∨ address + bytes.length ≤ place.val) :
    cellAt (memory.write address bytes) place = cellAt memory place := by
  rw [cellAt_write]
  rcases outside with before | behind
  · rw [if_neg (Nat.not_le.mpr before)]
  · rw [if_pos (by omega), List.getElem?_eq_none (by omega), Option.getD_none]

/-- What memory held before has no part in a byte that is written. -/
theorem cellAt_write_of_inside (reached : address ≤ place.val)
    (inside : place.val < address + bytes.length) (other : Memory) :
    cellAt (memory.write address bytes) place = cellAt (other.write address bytes) place := by
  have written : place.val - address < bytes.length := by omega
  rw [cellAt_write, cellAt_write, if_pos reached, if_pos reached,
    List.getElem?_eq_getElem written, Option.getD_some, Option.getD_some]

end

theorem cellAt_putCell_of_ne {α : Type} {size : Nat} {cells : Vector α size}
    {place other : Fin size} {value : α} (apart : other ≠ place) :
    cellAt (putCell cells place value) other = cellAt cells other := by
  rw [cellAt_putCell, if_neg apart.symm]

/-- Whether the instruction may write the register. -/
def Instruction.Writes (register : Fin 16) : Instruction → Prop
  | .setByte x _ | .copy x _ | .or x _ | .and x _ | .xor x _ | .random x _ | .readDelay x
  | .awaitKey x => register = x
  | .addByte x _ | .add x _ | .subtract x _ | .shiftRight x _ | .subtractFrom x _
  | .shiftLeft x _ => register = x ∨ register = Registers.flag
  | .draw .. | .addIndex _ => register = Registers.flag
  | .loadRegisters x => register ≤ x
  | _ => False

namespace State

variable (edge : Edge) (state : State)

/-- The bytes that an instruction writes to memory, the first of them at `I`. -/
def bytesWritten : Instruction → List UInt8
  | .decimal x =>
    let value := state.register x
    [value / 100, value / 10 % 10, value % 10]
  | .storeRegisters x => state.registers.toList.take (x + 1)
  | _ => []

/-- Behind `VX` a store changes nothing, so that it writes the registers up to `VX`. -/
theorem stored_eq_write (x : Fin 16) :
    state.stored edge x =
      state.memory.write state.index.toNat (state.registers.toList.take (x + 1)) := by
  refine cells_ext fun place => ?_
  rw [cellAt_stored, cellAt_write]
  by_cases inside : state.index.toNat ≤ place.val ∧ place.val ≤ state.index.toNat + x.val
  · rw [dif_pos inside, if_pos inside.1, List.getElem?_take_of_lt (by omega),
      getElem?_toList _ (by omega), Option.getD_some]
  · rw [dif_neg inside]
    by_cases reached : state.index.toNat ≤ place.val
    · rw [if_pos reached, List.getElem?_eq_none (by simp; omega), Option.getD_none]
    · rw [if_neg reached]

/-! ## Fields after an instruction -/

section

attribute [local simp] performWith ret call setResult compute skipIfKey takeRandom draw addIndex
  writeMemory storeDecimal storeRegisters loadRegisters latch setFlag setRegister skipIf_eq
  awaitKey_eq

theorem performWith_memory (instruction : Instruction) :
    (state.performWith edge instruction).memory =
      state.memory.write state.index.toNat (state.bytesWritten instruction) := by
  cases instruction with
  | storeRegisters x =>
    rw [bytesWritten, ← stored_eq_write edge state x, stored]
    simp
  | _ => simp [bytesWritten, Memory.write]

theorem performWith_keypad (instruction : Instruction) :
    (state.performWith edge instruction).keypad = state.keypad := by
  cases instruction <;> simp

/-- An instruction leaves the registers that it does not write. -/
theorem register_performWith_of_not_writes {instruction : Instruction} {place : Fin 16}
    (unwritten : ¬ instruction.Writes place) :
    (state.performWith edge instruction).register place = state.register place := by
  unfold register
  cases instruction with
  | loadRegisters x =>
    have behind : ¬ place ≤ x := unwritten
    simp [cellAt_spliceAt, behind]
  | awaitKey x =>
    have apart : ¬ place = x := unwritten
    simp only [performWith, awaitKey_eq]
    split <;> simp [cellAt_putCell_of_ne, apart]
  | _ => simp_all [Instruction.Writes, cellAt_putCell_of_ne]

end

/-! ## Words -/

/-- How many bytes a word writes. -/
theorem length_bytesWritten_decode (word : Int32) :
    (state.bytesWritten (Instruction.decode word)).length =
      match classify word with
      | .decimal => 3
      | .storeRegisters => (Word.x word).val + 1
      | _ => 0 := by
  unfold Instruction.decode
  cases classify word with
  | storeRegisters =>
    simp only [bytesWritten, List.length_take, Vector.length_toList]
    omega
  | _ => rfl

/-- A word writes the register that it names as `VX`, `VF` for a flag, or the registers up to
`VX`. -/
theorem writes_decode {word : Int32} {place : Fin 16}
    (writes : (Instruction.decode word).Writes place) :
    place = Word.x word ∨
      (place = Registers.flag ∧
        classify word ∈ [.addByte, .add, .subtract, .shiftRight, .subtractFrom, .shiftLeft,
          .addIndex, .draw]) ∨
      (classify word = .loadRegisters ∧ place ≤ Word.x word) := by
  unfold Instruction.decode at writes
  cases kind : classify word <;> simp_all [Instruction.Writes]

end State

end Chip8
