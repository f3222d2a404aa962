import Chip8.Machine
import Chip8.Proofs.Pattern

/-!
# Arithmetic in whole numbers

The arithmetic unit works on signed 32-bit numbers and cuts bytes out of them, and an instruction
writes its flag before its result. In whole numbers the rules are short, and they hold for every
choice of registers: `VX` and `VY` may be one register, and each may be `VF`, which then keeps the
result and not the flag.

Results:
1. `add_holds`, `subtract_holds`, `subtractFrom_holds`, `shiftRight_holds`, `shiftLeft_holds`: the
   outcomes of the arithmetic unit, in whole numbers.
2. `setResult_computed`, `setRegister_assigned`: all that an instruction changes with an outcome.
3. `computes`: the rules of the ten arithmetic words.
4. `arithmetic_exact`: the rules, and the words that undo one another.
-/

namespace Chip8

namespace Arithmetic

/-- The outcome has a number as its byte, and its flag tells whether a condition holds. -/
structure Outcome.Holds (outcome : Outcome) (number : Int) (flagged : Prop) : Prop where
  value : (outcome.value.toNat : Int) = number
  flag : outcome.flag = true ↔ flagged

theorem toInt_operand (byte : UInt8) : (operand byte).toInt = byte.toNat := by
  have bound := byte.toNat_lt
  have number : operand byte = Int32.ofNat byte.toNat := by
    rw [operand, ← UInt32.toInt32_ofNat', ← UInt8.toNat_toUInt32, UInt32.ofNat_toNat]
  rw [number, Int32.toInt_ofNat_of_lt (by omega)]

theorem add_holds (a b : UInt8) :
    (add (operand a) (operand b)).Holds ((a.toNat + b.toNat) % 256)
      (255 < a.toNat + b.toNat) where
  value := by
    have sum : (add (operand a) (operand b)).value = a + b := by simp [add, lowByte, operand]
    rw [sum, UInt8.toNat_add]
    rfl
  flag := by
    have small := a.toNat_lt
    have small' := b.toNat_lt
    have sum : (operand a + operand b).toInt = a.toNat + b.toNat := by
      rw [Int32.toInt_add, toInt_operand, toInt_operand]
      exact Int.bmod_eq_of_le (by omega) (by omega)
    rw [add, decide_eq_true_eq, Int32.lt_iff_toInt_lt, sum]
    exact Int.ofNat_lt

theorem subtract_holds (a b : UInt8) :
    (subtract (operand a) (operand b)).Holds ((a.toNat - b.toNat) % 256)
      (b.toNat ≤ a.toNat) where
  value := by
    have small := a.toNat_lt
    have small' := b.toNat_lt
    have difference : (subtract (operand a) (operand b)).value = a - b := by
      simp [subtract, lowByte, operand]
    rw [difference, UInt8.toNat_sub]
    omega
  flag := by
    rw [subtract, decide_eq_true_eq, Int32.le_iff_toInt_le, toInt_operand, toInt_operand]
    exact Int.ofNat_le

theorem subtractFrom_holds (a b : UInt8) :
    (subtractFrom (operand a) (operand b)).Holds ((b.toNat - a.toNat) % 256)
      (a.toNat ≤ b.toNat) :=
  subtract_holds b a

theorem shiftRight_holds (a : UInt8) (y : Int32) :
    (shiftRight (operand a) y).Holds (a.toNat / 2) (a.toNat % 2 = 1) := by
  have halved : ∀ number : Fin 256,
      shiftRight (operand (UInt8.ofFin number)) 0 =
        ⟨UInt8.ofFin number / 2, number.val % 2 = 1⟩ := by
    decide +kernel
  have outcome : shiftRight (operand a) y = ⟨a / 2, a.toNat % 2 = 1⟩ := halved a.toFin
  rw [outcome]
  exact ⟨by simp, by simp⟩

theorem shiftLeft_holds (a : UInt8) (y : Int32) :
    (shiftLeft (operand a) y).Holds (2 * a.toNat % 256) (128 ≤ a.toNat) := by
  have doubled : ∀ number : Fin 256,
      shiftLeft (operand (UInt8.ofFin number)) 0 =
        ⟨2 * UInt8.ofFin number, 128 ≤ number.val⟩ := by
    decide +kernel
  have outcome : shiftLeft (operand a) y = ⟨2 * a, 128 ≤ a.toNat⟩ := doubled a.toFin
  rw [outcome]
  exact ⟨by simp, by simp⟩

end Arithmetic

namespace State

/-! ## Results in registers -/

/-- All that changes when a number goes to `VX`. -/
structure Assigned (before : State) (x : Fin 16) (number : Nat) (after : State) : Prop where
  result : (after.register x).toNat = number
  others : ∀ other, other ≠ x → after.register other = before.register other
  fields : after = { before with registers := after.registers }

/-- All that changes when a number goes to `VX` and a flag to `VF`. As `VX`, `VF` holds the number. -/
structure Computed (before : State) (x : Fin 16) (number : Int) (flagged : Prop)
    [Decidable flagged] (after : State) : Prop where
  result : ((after.register x).toNat : Int) = number
  flag : x ≠ Registers.flag → after.register Registers.flag = if flagged then 1 else 0
  others : ∀ other, other ≠ x → other ≠ Registers.flag →
    after.register other = before.register other
  fields : after = { before with registers := after.registers }

variable {state : State} {x : Fin 16}

theorem setRegister_assigned (state : State) (x : Fin 16) (byte : UInt8) :
    state.Assigned x byte.toNat (state.setRegister x byte) where
  result := by rw [register_setRegister, if_pos rfl]
  others other apart := by rw [register_setRegister, if_neg (Ne.symm apart)]
  fields := rfl

/-- The result is written last, so that a flag that goes to the same register is lost. -/
theorem setResult_computed {outcome : Arithmetic.Outcome} {number : Int} {flagged : Prop}
    [Decidable flagged] (holds : outcome.Holds number flagged) :
    state.Computed x number flagged (state.setResult x outcome) where
  result := by
    rw [setResult, register_setRegister, if_pos rfl]
    exact holds.value
  flag apart := by
    rw [setResult, register_setRegister, if_neg apart, setFlag, register_setRegister, if_pos rfl]
    simp only [holds.flag]
  others other notX notFlag := by
    rw [setResult, register_setRegister, if_neg (Ne.symm notX), setFlag, register_setRegister,
      if_neg (Ne.symm notFlag)]
  fields := rfl

/-! ## Words -/

/-- The rules of the arithmetic words, for the numbers in `VX` and `VY` and the last byte of the
word. -/
structure Computes (state : State) (word : Int32) (a b byte : Nat) : Prop where
  copy : word.toUInt32 &&& 0xF00F = 0x8000 →
    state.Assigned (Word.x word) b (state.execute word)
  or : word.toUInt32 &&& 0xF00F = 0x8001 →
    state.Assigned (Word.x word) (a ||| b) (state.execute word)
  and : word.toUInt32 &&& 0xF00F = 0x8002 →
    state.Assigned (Word.x word) (a &&& b) (state.execute word)
  xor : word.toUInt32 &&& 0xF00F = 0x8003 →
    state.Assigned (Word.x word) (a ^^^ b) (state.execute word)
  addByte : word.toUInt32 &&& 0xF000 = 0x7000 →
    state.Computed (Word.x word) ((a + byte) % 256) (255 < a + byte) (state.execute word)
  add : word.toUInt32 &&& 0xF00F = 0x8004 →
    state.Computed (Word.x word) ((a + b) % 256) (255 < a + b) (state.execute word)
  subtract : word.toUInt32 &&& 0xF00F = 0x8005 →
    state.Computed (Word.x word) ((a - b) % 256) (b ≤ a) (state.execute word)
  shiftRight : word.toUInt32 &&& 0xF00F = 0x8006 →
    state.Computed (Word.x word) (a / 2) (a % 2 = 1) (state.execute word)
  subtractFrom : word.toUInt32 &&& 0xF00F = 0x8007 →
    state.Computed (Word.x word) ((b - a) % 256) (a ≤ b) (state.execute word)
  shiftLeft : word.toUInt32 &&& 0xF00F = 0x800E →
    state.Computed (Word.x word) (2 * a % 256) (128 ≤ a) (state.execute word)

theorem computes (state : State) (word : Int32) :
    state.Computes word (state.register (Word.x word)).toNat (state.register (Word.y word)).toNat
      (Word.nn word).toNat where
  copy digits := by
    have kind : classify word = .copy :=
      classify_of_digits ⟨0xF00F, 0x8000, .copy⟩ (by decide) digits
    rw [execute, executeWith, Instruction.decode, kind]
    exact setRegister_assigned ..
  or digits := by
    have kind : classify word = .or :=
      classify_of_digits ⟨0xF00F, 0x8001, .or⟩ (by decide) digits
    rw [execute, executeWith, Instruction.decode, kind, ← UInt8.toNat_or]
    exact setRegister_assigned ..
  and digits := by
    have kind : classify word = .and :=
      classify_of_digits ⟨0xF00F, 0x8002, .and⟩ (by decide) digits
    rw [execute, executeWith, Instruction.decode, kind, ← UInt8.toNat_and]
    exact setRegister_assigned ..
  xor digits := by
    have kind : classify word = .xor :=
      classify_of_digits ⟨0xF00F, 0x8003, .xor⟩ (by decide) digits
    rw [execute, executeWith, Instruction.decode, kind, ← UInt8.toNat_xor]
    exact setRegister_assigned ..
  addByte digits := by
    have kind : classify word = .addByte :=
      classify_of_digits ⟨0xF000, 0x7000, .addByte⟩ (by decide) digits
    rw [execute, executeWith, Instruction.decode, kind]
    exact setResult_computed (Arithmetic.add_holds ..)
  add digits := by
    have kind : classify word = .add :=
      classify_of_digits ⟨0xF00F, 0x8004, .add⟩ (by decide) digits
    rw [execute, executeWith, Instruction.decode, kind]
    exact setResult_computed (Arithmetic.add_holds ..)
  subtract digits := by
    have kind : classify word = .subtract :=
      classify_of_digits ⟨0xF00F, 0x8005, .subtract⟩ (by decide) digits
    rw [execute, executeWith, Instruction.decode, kind]
    exact setResult_computed (Arithmetic.subtract_holds ..)
  shiftRight digits := by
    have kind : classify word = .shiftRight :=
      classify_of_digits ⟨0xF00F, 0x8006, .shiftRight⟩ (by decide) digits
    rw [execute, executeWith, Instruction.decode, kind]
    exact setResult_computed (Arithmetic.shiftRight_holds ..)
  subtractFrom digits := by
    have kind : classify word = .subtractFrom :=
      classify_of_digits ⟨0xF00F, 0x8007, .subtractFrom⟩ (by decide) digits
    rw [execute, executeWith, Instruction.decode, kind]
    exact setResult_computed (Arithmetic.subtractFrom_holds ..)
  shiftLeft digits := by
    have kind : classify word = .shiftLeft :=
      classify_of_digits ⟨0xF00F, 0x800E, .shiftLeft⟩ (by decide) digits
    rw [execute, executeWith, Instruction.decode, kind]
    exact setResult_computed (Arithmetic.shiftLeft_holds ..)

/-! ## Words that undo one another -/

/-- A difference behind a sum of the same two registers gives the first of them back, with a borrow
exactly if the sum had a carry. -/
theorem subtract_after_add {sum difference : Int32} (sums : sum.toUInt32 &&& 0xF00F = 0x8004)
    (subtracts : difference.toUInt32 &&& 0xF00F = 0x8005)
    (sameX : Word.x difference = Word.x sum) (sameY : Word.y difference = Word.y sum)
    (apart : Word.x sum ≠ Word.y sum) (xKept : Word.x sum ≠ Registers.flag)
    (yKept : Word.y sum ≠ Registers.flag) :
    let added := state.execute sum
    let restored := added.execute difference
    restored.register (Word.x sum) = state.register (Word.x sum) ∧
    (restored.register Registers.flag).toNat = 1 - (added.register Registers.flag).toNat := by
  intro added restored
  have addition := (state.computes sum).add sums
  have subtraction := (added.computes difference).subtract subtracts
  have sameAddend : added.register (Word.y sum) = state.register (Word.y sum) :=
    addition.others _ apart.symm yKept
  rw [sameX, sameY, sameAddend] at subtraction
  have small := (state.register (Word.x sum)).toNat_lt
  have wrapped : ((added.register (Word.x sum)).toNat : Int) = _ := addition.result
  have back : ((restored.register (Word.x sum)).toNat : Int) = _ := subtraction.result
  have borrow : restored.register Registers.flag = _ := subtraction.flag xKept
  have carry : added.register Registers.flag = _ := addition.flag xKept
  constructor
  · rw [← UInt8.toNat_inj]
    omega
  · rw [borrow, carry]
    by_cases carries :
        255 < (state.register (Word.x sum)).toNat + (state.register (Word.y sum)).toNat
    · rw [if_pos carries, if_neg (by omega)]
      rfl
    · rw [if_neg carries, if_pos (by omega)]
      rfl

/-- Taking the first register from the second twice gives the first back. -/
theorem subtractFrom_twice {word : Int32} (subtracts : word.toUInt32 &&& 0xF00F = 0x8007)
    (apart : Word.x word ≠ Word.y word) (yKept : Word.y word ≠ Registers.flag) :
    ((state.execute word).execute word).register (Word.x word) =
      state.register (Word.x word) := by
  have once := (state.computes word).subtractFrom subtracts
  have twice := ((state.execute word).computes word).subtractFrom subtracts
  rw [once.others _ apart.symm yKept] at twice
  have small := (state.register (Word.x word)).toNat_lt
  have difference := once.result
  have back := twice.result
  rw [← UInt8.toNat_inj]
  omega

end State

/-- Arithmetic on registers is exact on every state and for every choice of the registers, also where
`VX` and `VY` are one register or one of them is `VF`. Each of the ten words follows its rule of
`State.Computes`: sums, differences and shifts leave their number in `VX` and their flag in `VF`, or
the number alone if `VX` is `VF`, the other words change `VX` only, and nothing else changes. On two
registers apart from each other and from `VF`, a difference behind a sum gives `VX` back and borrows
exactly if the sum had a carry, and a difference taken from `VY` twice gives `VX` back. -/
theorem arithmetic_exact (state : State) :
    (∀ word : Int32,
      state.Computes word (state.register (Word.x word)).toNat
        (state.register (Word.y word)).toNat (Word.nn word).toNat) ∧
    (∀ sum difference : Int32,
      sum.toUInt32 &&& 0xF00F = 0x8004 → difference.toUInt32 &&& 0xF00F = 0x8005 →
      Word.x difference = Word.x sum → Word.y difference = Word.y sum →
      Word.x sum ≠ Word.y sum → Word.x sum ≠ Registers.flag → Word.y sum ≠ Registers.flag →
      let added := state.execute sum
      let restored := added.execute difference
      restored.register (Word.x sum) = state.register (Word.x sum) ∧
      (restored.register Registers.flag).toNat = 1 - (added.register Registers.flag).toNat) ∧
    (∀ word : Int32, word.toUInt32 &&& 0xF00F = 0x8007 →
      Word.x word ≠ Word.y word → Word.y word ≠ Registers.flag →
      ((state.execute word).execute word).register (Word.x word) =
        state.register (Word.x word)) :=
  ⟨state.computes, fun _ _ => State.subtract_after_add, fun _ => State.subtractFrom_twice⟩

/-- A machine with numbers in `V1`, `V2` and `VF`. -/
def Machine.countingInFlag : Machine :=
  (Machine.fresh ⟨0, 0⟩ false).after
    [.load #[0x61, 0xC8, 0x62, 0x64, 0x6F, 0x7B], .step, .step, .step]

/-- One word of each kind, most of them with `VF` as an operand. -/
theorem arithmetic_exact_inFlag :
    let state := Machine.countingInFlag.state
    let flag := Registers.flag
    state.register 1 = 200 ∧ state.register 2 = 100 ∧ state.register flag = 123 ∧
    ((state.execute 0x81F0).register 1).toNat = 123 ∧
    ((state.execute 0x8F21).register flag).toNat = 127 ∧
    ((state.execute 0x81F2).register 1).toNat = 72 ∧
    ((state.execute 0x8FF3).register flag).toNat = 0 ∧
    (((state.execute 0x7F90).register flag).toNat : Int) = 11 ∧
    (state.execute 0x81F4).register flag = 1 ∧
    (((state.execute 0x8F15).register flag).toNat : Int) = 179 ∧
    (((state.execute 0x8FF6).register flag).toNat : Int) = 61 ∧
    (state.execute 0x81F7).register flag = 0 ∧ (state.execute 0x812E).register flag = 1 ∧
    (let added := state.execute 0x8124
      let restored := added.execute 0x8125
      restored.register 1 = 200 ∧
      (restored.register flag).toNat = 1 - (added.register flag).toNat) ∧
    ((state.execute 0x8127).execute 0x8127).register 1 = 200 := by
  intro state flag
  obtain ⟨first, second, third, unset⟩ :
      state.register 1 = 200 ∧ state.register 2 = 100 ∧ state.register flag = 123 ∧
      state.register 9 = 0 := by
    decide +kernel
  obtain ⟨rules, undone, twice⟩ := arithmetic_exact state
  have rule (word : Int32) (a b : UInt8) (atX : state.register (Word.x word) = a)
      (atY : state.register (Word.y word) = b) :
      state.Computes word a.toNat b.toNat (Word.nn word).toNat := by
    rw [← atX, ← atY]
    exact rules word
  have carried := ((rule 0x81F4 200 123 first third).add (by decide)).flag (by decide)
  have borrowed := ((rule 0x81F7 200 123 first third).subtractFrom (by decide)).flag (by decide)
  have doubled := ((rule 0x812E 200 100 first second).shiftLeft (by decide)).flag (by decide)
  have restored := undone 0x8124 0x8125 (by decide) (by decide) (by decide) (by decide) (by decide)
    (by decide) (by decide)
  have taken := twice 0x8127 (by decide) (by decide) (by decide)
  exact ⟨first, second, third,
    ((rule 0x81F0 200 123 first third).copy (by decide)).result,
    ((rule 0x8F21 123 100 third second).or (by decide)).result,
    ((rule 0x81F2 200 123 first third).and (by decide)).result,
    ((rule 0x8FF3 123 123 third third).xor (by decide)).result,
    ((rule 0x7F90 123 0 third unset).addByte (by decide)).result,
    carried.trans (if_pos (by decide)),
    ((rule 0x8F15 123 200 third first).subtract (by decide)).result,
    ((rule 0x8FF6 123 123 third third).shiftRight (by decide)).result,
    borrowed.trans (if_neg (by decide)), doubled.trans (if_pos (by decide)),
    ⟨restored.1.trans first, restored.2⟩, taken.trans first⟩

end Chip8
