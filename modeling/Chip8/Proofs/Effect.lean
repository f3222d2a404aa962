import Chip8.Cycle

/-!
# What an instruction changes

`State.performWith` is read here field by field: for a field of the state, what it holds after an
instruction. Later modules cite these equations and do not look inside the instructions again.

Results:
1. `performWith_pc`, `performWith_index`, `performWith_stack`, `performWith_mode`,
   `performWith_waitRegister`, `performWith_unknownOpcode`, `performWith_display`,
   `performWith_dirty`, `performWith_delayTimer`, `performWith_soundTimer`, `performWith_random`:
   the field after every instruction.
2. `performWith_opcode`, `performWith_tone`: fields that no instruction writes.
3. `performWith_fault`, `performWith_fault_of_ne`: an instruction records the fault of the first
   check that fails (`hazard?`), and none once a fault is recorded.
-/

namespace Chip8

namespace Fault

/-- The code of a fault that was found, or that of a healthy machine. -/
def codeOf : Option Fault → UInt8
  | none => healthy
  | some fault => fault.code

@[simp] theorem codeOf_none : codeOf none = healthy := rfl

@[simp] theorem codeOf_some (fault : Fault) : codeOf (some fault) = fault.code := rfl

theorem codeOf_eq_healthy_iff (found : Option Fault) : codeOf found = healthy ↔ found = none := by
  cases found with
  | none => simp
  | some fault => simp [code_ne_healthy]

theorem codeOf_eq_code_iff (found : Option Fault) (fault : Fault) :
    codeOf found = fault.code ↔ found = some fault := by
  cases found with
  | none => simp [(code_ne_healthy fault).symm]
  | some other => cases other <;> cases fault <;> decide

end Fault

namespace State

variable (edge : Edge) (state : State)

/-! ## Shared changes -/

theorem skipIf_eq (condition : Bool) :
    state.skipIf condition = { state with pc := if condition then state.pc + 2 else state.pc } := by
  cases condition <;> rfl

theorem awaitKey_eq (x : Fin 16) :
    state.awaitKey x =
      { state with
        registers :=
          match state.keypad.lowest? with
          | some key => putCell state.registers x (UInt8.ofNat key)
          | none => state.registers
        mode := if state.keypad.lowest? = none then Mode.awaitingKey else state.mode
        waitRegister :=
          if state.keypad.lowest? = none then UInt8.ofNat x else state.waitRegister } := by
  unfold awaitKey
  cases state.keypad.lowest? <;> simp [setRegister]

/-! ## Choices and checks of the instructions -/

/-- Whether the instruction is a skip whose condition holds. -/
def skips : Instruction → Bool
  | .skipEqByte x byte => state.register x == byte
  | .skipNeByte x byte => state.register x != byte
  | .skipEqRegister x y => state.register x == state.register y
  | .skipNeRegister x y => state.register x != state.register y
  | .skipKeyDown x => readCell state.keypad edge.keypad (state.register x).toNat == true
  | .skipKeyUp x => readCell state.keypad edge.keypad (state.register x).toNat == false
  | _ => false

/-- The check of an instruction that fails first, if one does. -/
def hazard? : Instruction → Option Fault
  | .ret => if state.stack.isEmpty then some .stackUnderflow else none
  | .call _ => if state.stack.isFull then some .stackOverflow else none
  | .draw x y height =>
    if 0 < height.val ∧ 0xFFF < state.index.toNat + height - 1 then some .memory
    else if (state.sprite edge x y height).isOffScreen then some .display
    else none
  | .skipKeyDown x | .skipKeyUp x => if 16 ≤ state.register x then some .keypad else none
  | .decimal _ => if 0xFFF < state.index + 2 then some .memory else none
  | .storeRegisters x | .loadRegisters x => if state.windowPastMemory x then some .memory else none
  | _ => none

/-! ## Fields after an instruction -/

section

attribute [local simp] performWith ret call setResult compute skipIfKey takeRandom draw addIndex
  writeMemory storeDecimal storeRegisters loadRegisters latch setFlag setRegister skipIf_eq
  awaitKey_eq

theorem performWith_pc (instruction : Instruction) :
    (state.performWith edge instruction).pc =
      match instruction with
      | .ret => state.stack.top edge + 2
      | .jump target | .call target => target
      | .jumpOffset base => base + (state.register Registers.offset).toUInt16
      | _ => if state.skips edge instruction then state.pc + 2 else state.pc := by
  cases instruction <;> simp [skips]

theorem performWith_index (instruction : Instruction) :
    (state.performWith edge instruction).index =
      match instruction with
      | .setIndex address => address
      | .addIndex x => UInt16.ofNat ((state.index.toNat + (state.register x).toNat) % 0x1000)
      | .glyph x => UInt16.ofNat (fontStart + (state.register x).toNat * glyphSize)
      | _ => state.index := by
  cases instruction <;> simp

theorem performWith_stack (instruction : Instruction) :
    (state.performWith edge instruction).stack =
      match instruction with
      | .ret => state.stack.pop
      | .call _ => state.stack.push (state.pc - 2)
      | _ => state.stack := by
  cases instruction <;> simp

theorem performWith_mode (instruction : Instruction) :
    (state.performWith edge instruction).mode =
      match instruction with
      | .awaitKey _ => if state.keypad.lowest? = none then Mode.awaitingKey else state.mode
      | _ => state.mode := by
  cases instruction <;> simp

theorem performWith_waitRegister (instruction : Instruction) :
    (state.performWith edge instruction).waitRegister =
      match instruction with
      | .awaitKey x => if state.keypad.lowest? = none then UInt8.ofNat x else state.waitRegister
      | _ => state.waitRegister := by
  cases instruction <;> simp

theorem performWith_unknownOpcode (instruction : Instruction) :
    (state.performWith edge instruction).unknownOpcode =
      match instruction with
      | .unknown _ => true
      | _ => state.unknownOpcode := by
  cases instruction <;> simp

theorem performWith_display (instruction : Instruction) :
    (state.performWith edge instruction).display =
      match instruction with
      | .clearScreen => Vector.replicate 2048 false
      | .draw x y height => (state.sprite edge x y height).draw edge state.display
      | _ => state.display := by
  cases instruction <;> simp

theorem performWith_dirty (instruction : Instruction) :
    (state.performWith edge instruction).dirty =
      match instruction with
      | .clearScreen | .draw .. => true
      | _ => state.dirty := by
  cases instruction <;> simp

theorem performWith_delayTimer (instruction : Instruction) :
    (state.performWith edge instruction).delayTimer =
      match instruction with
      | .setDelay x => state.register x
      | _ => state.delayTimer := by
  cases instruction <;> simp

theorem performWith_soundTimer (instruction : Instruction) :
    (state.performWith edge instruction).soundTimer =
      match instruction with
      | .setSound x => state.register x
      | _ => state.soundTimer := by
  cases instruction <;> simp

theorem performWith_random (instruction : Instruction) :
    (state.performWith edge instruction).random =
      match instruction with
      | .random .. => RandomKey.next state.random
      | _ => state.random := by
  cases instruction <;> simp

theorem performWith_opcode (instruction : Instruction) :
    (state.performWith edge instruction).opcode = state.opcode := by
  cases instruction <;> simp

theorem performWith_tone (instruction : Instruction) :
    (state.performWith edge instruction).tone = state.tone := by
  cases instruction <;> simp

/-- A recorded fault stays, whatever is carried out after it. -/
theorem performWith_fault_of_ne (faulty : state.fault ≠ Fault.healthy) (instruction : Instruction) :
    (state.performWith edge instruction).fault = state.fault := by
  cases instruction <;> simp [faulty]

/-- On a healthy state the fault is that of the first check that fails. -/
theorem performWith_fault (healthy : state.fault = Fault.healthy) (instruction : Instruction) :
    (state.performWith edge instruction).fault =
      Fault.codeOf (state.hazard? edge instruction) := by
  cases instruction with
  | draw x y height =>
    -- The only instruction with two checks: the second one counts if the first has passed.
    have recorded : (state.performWith edge (.draw x y height)).fault =
        if 0 < height.val ∧ 0xFFF < state.index.toNat + height - 1 then Fault.memory.code
        else if (state.sprite edge x y height).isOffScreen then Fault.display.code
        else Fault.healthy := by
      by_cases pastMemory : 0 < height.val ∧ 0xFFF < state.index.toNat + height - 1
      · simp only [performWith, draw, latch, setFlag, setRegister, healthy, pastMemory, and_self,
          decide_true, beq_self_eq_true, if_true, Bool.and_eq_true, beq_iff_eq,
          Fault.code_ne_healthy, and_false, if_false]
      · simp only [performWith, draw, latch, setFlag, setRegister, healthy, pastMemory,
          decide_false, Bool.false_eq_true, if_false, beq_self_eq_true, Bool.and_true]
    rw [recorded, hazard?, apply_ite Fault.codeOf, apply_ite Fault.codeOf]
    rfl
  | _ => simp [hazard?, healthy, apply_ite Fault.codeOf]

end

end State

end Chip8
