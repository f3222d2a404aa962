import Chip8.Proofs.Sound
import Chip8.Proofs.Sprite

/-!
# When a step faults

`State.Raises` lists, for each fault, the words and registers that cause it, with every sum taken in
whole numbers. On the states that a machine reaches this is exact: a running step records the fault
that is raised, and none when none is. The order of the checks is part of the list: past the end of
memory nothing but the fetch counts, and a sprite that is not in memory has no cells.

Results:
1. `hazard?_ofWord`, `stepHazard?_eq_some_iff`: the first check that fails, by the kind of the word.
2. `reached_step_fault_iff`: the fault of a step, for every state that a machine reaches.
-/

namespace Chip8

namespace State

variable (state : State)

/-- The word as a number whose digits are the operands. -/
def operands : Int32 :=
  state.word.toUInt32.toInt32

/-- The register `VX` of the word at the program counter. -/
def vx : Nat := (state.register (Word.x state.operands)).toNat

/-- The register `VY` of the word at the program counter. -/
def vy : Nat := (state.register (Word.y state.operands)).toNat

/-! ## Causes of faults -/

/-- The fault that a running step on this state has cause for. -/
def Raises : Fault → Prop
  | .memory =>
    0xFFE < state.pc.toNat ∨
    (state.word &&& 0xF000 = 0xD000 ∧ 0 < (Word.n state.operands).val ∧
      0xFFF < state.index.toNat + (Word.n state.operands).val - 1) ∨
    (state.word &&& 0xF0FF = 0xF033 ∧ 0xFFF < state.index.toNat + 2) ∨
    ((state.word &&& 0xF0FF = 0xF055 ∨ state.word &&& 0xF0FF = 0xF065) ∧
      0xFFF < state.index.toNat + (Word.x state.operands).val)
  | .stackOverflow =>
    state.pc.toNat ≤ 0xFFE ∧ state.word &&& 0xF000 = 0x2000 ∧ state.stack.pointer.toNat = 16
  | .stackUnderflow =>
    state.pc.toNat ≤ 0xFFE ∧ state.word = 0x00EE ∧ state.stack.pointer.toNat = 0
  | .display =>
    state.pc.toNat ≤ 0xFFE ∧ state.word &&& 0xF000 = 0xD000 ∧
    (∀ row < (Word.n state.operands).val, state.index.toNat + row ≤ 0xFFF) ∧
    ∃ row < (Word.n state.operands).val, ∃ column < 8,
      (state.byteAt (state.index.toNat + row)).toNat.testBit (7 - column) = true ∧
      2047 < (state.vx + column) + (state.vy + row) * 64
  | .keypad =>
    state.pc.toNat ≤ 0xFFE ∧
    (state.word &&& 0xF0FF = 0xE09E ∨ state.word &&& 0xF0FF = 0xE0A1) ∧ 15 < state.vx

variable {state : State}

/-! ## Kinds of the words that can fault -/

theorem op_word_iff (pattern : Pattern) (listed : pattern ∈ patterns) :
    classify state.operands = pattern.op ↔
      state.word &&& pattern.mask.toUInt16 = pattern.value.toUInt16 := by
  rw [← op_ofWord_iff pattern listed, Instruction.ofWord, Instruction.op_decode]
  rfl

theorem word_ret_iff : state.word = 0x00EE ↔ classify state.operands = .ret := by
  have whole : state.word &&& 0xFFFF = state.word := by
    rw [← UInt16.toNat_inj, UInt16.toNat_and]
    exact (Nat.and_two_pow_sub_one_eq_mod _ 16).trans (Nat.mod_eq_of_lt state.word.toNat_lt)
  rw [← whole]
  exact (op_word_iff ⟨0xFFFF, 0x00EE, .ret⟩ (by decide)).symm

theorem word_call_iff : state.word &&& 0xF000 = 0x2000 ↔ classify state.operands = .call :=
  (op_word_iff ⟨0xF000, 0x2000, .call⟩ (by decide)).symm

theorem word_draw_iff : state.word &&& 0xF000 = 0xD000 ↔ classify state.operands = .draw :=
  (op_word_iff ⟨0xF000, 0xD000, .draw⟩ (by decide)).symm

theorem word_skipKeyDown_iff :
    state.word &&& 0xF0FF = 0xE09E ↔ classify state.operands = .skipKeyDown :=
  (op_word_iff ⟨0xF0FF, 0xE09E, .skipKeyDown⟩ (by decide)).symm

theorem word_skipKeyUp_iff :
    state.word &&& 0xF0FF = 0xE0A1 ↔ classify state.operands = .skipKeyUp :=
  (op_word_iff ⟨0xF0FF, 0xE0A1, .skipKeyUp⟩ (by decide)).symm

theorem word_decimal_iff :
    state.word &&& 0xF0FF = 0xF033 ↔ classify state.operands = .decimal :=
  (op_word_iff ⟨0xF0FF, 0xF033, .decimal⟩ (by decide)).symm

theorem word_storeRegisters_iff :
    state.word &&& 0xF0FF = 0xF055 ↔ classify state.operands = .storeRegisters :=
  (op_word_iff ⟨0xF0FF, 0xF055, .storeRegisters⟩ (by decide)).symm

theorem word_loadRegisters_iff :
    state.word &&& 0xF0FF = 0xF065 ↔ classify state.operands = .loadRegisters :=
  (op_word_iff ⟨0xF0FF, 0xF065, .loadRegisters⟩ (by decide)).symm

/-- The check that fails first, by the kind of the word. -/
theorem hazard?_ofWord (edge : Edge) :
    state.hazard? edge (Instruction.ofWord state.word) =
      match classify state.operands with
      | .ret => if state.stack.isEmpty then some .stackUnderflow else none
      | .call => if state.stack.isFull then some .stackOverflow else none
      | .draw => state.hazard? edge
          (.draw (Word.x state.operands) (Word.y state.operands) (Word.n state.operands))
      | .skipKeyDown | .skipKeyUp =>
        if 16 ≤ state.register (Word.x state.operands) then some .keypad else none
      | .decimal => if 0xFFF < state.index + 2 then some .memory else none
      | .storeRegisters | .loadRegisters =>
        if state.windowPastMemory (Word.x state.operands) then some .memory else none
      | _ => none := by
  unfold Instruction.ofWord Instruction.decode
  rw [← operands]
  cases classify state.operands <;> rfl

/-! ## The checks on a sound state -/

theorem isFull_iff (sound : state.Sound) :
    state.stack.isFull = true ↔ state.stack.pointer.toNat = 16 := by
  have bound := sound.stack.pointer_le
  rw [CallStack.isFull_eq_true_iff]
  omega

theorem key_iff (x : Fin 16) : 16 ≤ state.register x ↔ 15 < (state.register x).toNat :=
  UInt8.le_iff_toNat_le

theorem decimalPastMemory_iff (sound : state.Sound) :
    0xFFF < state.index + 2 ↔ 0xFFF < state.index.toNat + 2 := by
  have bound := sound.index_le
  simp only [UInt16.lt_iff_toNat_lt, UInt16.toNat_add, UInt16.reduceToNat]
  omega

theorem windowPastMemory_iff (x : Fin 16) :
    state.windowPastMemory x = true ↔ 0xFFF < state.index.toNat + x.val := by
  simp [windowPastMemory]

/-- A bit of a sprite in memory is a bit of a byte from `I` on. -/
theorem isSet_sprite_iff {x y height : Fin 16} (edge : Edge) {row : Fin 16} {column : Fin 8}
    (inMemory : ∀ row < height.val, state.index.toNat + row ≤ 0xFFF) :
    (state.sprite edge x y height).isSet row column = true ↔
      row.val < height.val ∧
        (state.byteAt (state.index.toNat + row)).toNat.testBit (7 - column) = true := by
  have kept : (state.sprite edge x y height).height = height := rfl
  rw [Sprite.isSet, Bool.and_eq_true, decide_eq_true_eq, cellAt_sprite_rows, kept]
  refine and_congr_right fun counts => ?_
  rw [readMemory_eq_byteAt _ _ (Nat.lt_succ_of_le (inMemory row counts))]

theorem isOffScreen_sprite_iff {x y height : Fin 16} (edge : Edge)
    (inMemory : ∀ row < height.val, state.index.toNat + row ≤ 0xFFF) :
    (state.sprite edge x y height).isOffScreen = true ↔
      ∃ row < height.val, ∃ column < 8,
        (state.byteAt (state.index.toNat + row)).toNat.testBit (7 - column) = true ∧
          2047 < ((state.register x).toNat + column) + ((state.register y).toNat + row) * 64 := by
  rw [Sprite.isOffScreen_iff]
  constructor
  · rintro ⟨row, column, isSet, past⟩
    rw [isSet_sprite_iff edge inMemory] at isSet
    exact ⟨row, isSet.1, column, column.isLt, isSet.2, past⟩
  · rintro ⟨row, counts, column, narrow, isSet, past⟩
    refine ⟨⟨row, by omega⟩, ⟨column, narrow⟩, ?_, past⟩
    exact (isSet_sprite_iff edge inMemory).mpr ⟨counts, isSet⟩

/-- A sprite that starts in memory and whose last row is in memory lies in memory as a whole. -/
theorem spritePastMemory_iff (height : Fin 16) :
    (0 < height.val ∧ 0xFFF < state.index.toNat + height.val - 1) ↔
      ¬ ∀ row < height.val, state.index.toNat + row ≤ 0xFFF := by
  constructor
  · rintro ⟨some, past⟩ inMemory
    have last := inMemory (height.val - 1) (by omega)
    omega
  · intro past
    rw [not_forall] at past
    obtain ⟨row, past⟩ := past
    rw [Classical.not_imp] at past
    omega

/-- Of the two checks of a sprite the one of its bytes goes first. -/
theorem hazard?_draw_iff (x y height : Fin 16) (edge : Edge) (fault : Fault) :
    state.hazard? edge (.draw x y height) = some fault ↔
      (fault = .memory ∧ 0 < height.val ∧ 0xFFF < state.index.toNat + height.val - 1) ∨
      (fault = .display ∧ (∀ row < height.val, state.index.toNat + row ≤ 0xFFF) ∧
        (state.sprite edge x y height).isOffScreen = true) := by
  by_cases past : 0 < height.val ∧ 0xFFF < state.index.toNat + height.val - 1
  · have notInMemory := (spritePastMemory_iff height).mp past
    rw [hazard?, if_pos past, Option.some_inj, eq_comm]
    simp only [past, notInMemory, and_true, and_false, false_and, or_false]
  · have inMemory := not_not.mp (mt (spritePastMemory_iff height).mpr past)
    rw [hazard?, if_neg past]
    cases (state.sprite edge x y height).isOffScreen
    · simp only [past, Bool.false_eq_true, if_false, reduceCtorEq, and_false, or_false]
    · simp only [past, if_true, and_false, false_or, and_true, Option.some.injEq, eq_comm,
        and_iff_left inMemory]

/-- A sprite that passes its checks lies in memory as a whole and has no cell off the screen. -/
theorem hazard?_draw_eq_none_iff {x y height : Fin 16} {edge : Edge} :
    state.hazard? edge (.draw x y height) = none ↔
      (∀ row < height.val, state.index.toNat + row ≤ 0xFFF) ∧
        (state.sprite edge x y height).isOffScreen = false := by
  rw [hazard?, ← not_not (a := ∀ row < height.val, _), ← spritePastMemory_iff height]
  by_cases past : 0 < height.val ∧ 0xFFF < state.index.toNat + height.val - 1
  · rw [if_pos past]
    exact iff_of_false (by simp) fun passed => passed.1 past
  · rw [if_neg past, and_iff_right past]
    cases (state.sprite edge x y height).isOffScreen <;> simp

section

attribute [local simp] word_ret_iff word_call_iff word_draw_iff word_skipKeyDown_iff
  word_skipKeyUp_iff word_decimal_iff word_storeRegisters_iff word_loadRegisters_iff

/-- Inside memory the first check that fails is the fault that the word has cause for. -/
theorem hazard?_word_iff (sound : state.Sound) (edge : Edge) (inMemory : state.pc.toNat ≤ 0xFFE)
    (fault : Fault) :
    state.hazard? edge (Instruction.ofWord state.word) = some fault ↔ state.Raises fault := by
  have notPast : ¬ 0xFFE < state.pc.toNat := Nat.not_lt.mpr inMemory
  rw [hazard?_ofWord]
  -- One case for each kind that can fault; the causes of the other faults ask for other kinds.
  split
  · next kind =>
    cases fault <;> simp [Raises, kind, inMemory, notPast, CallStack.isEmpty_eq_true_iff]
  · next kind => cases fault <;> simp [Raises, kind, inMemory, notPast, isFull_iff sound]
  · next kind =>
    rw [hazard?_draw_iff]
    cases fault with
    | display =>
      simp only [Raises, word_draw_iff, kind, inMemory, true_and, reduceCtorEq, false_and, false_or]
      exact and_congr_right fun whole => isOffScreen_sprite_iff edge whole
    | _ => simp [Raises, kind, inMemory, notPast]
  · next kind => cases fault <;> simp [Raises, kind, inMemory, notPast, key_iff, vx]
  · next kind => cases fault <;> simp [Raises, kind, inMemory, notPast, key_iff, vx]
  · next kind =>
    simp only [decimalPastMemory_iff sound]
    cases fault with
    | memory =>
      have cause : state.Raises .memory ↔ 0xFFF < state.index.toNat + 2 := by
        simp [Raises, kind, notPast]
      simp only [cause, ite_eq_left_iff, reduceCtorEq, imp_false, not_not]
    | _ => simp [Raises, kind]
  · next kind => cases fault <;> simp [Raises, kind, inMemory, notPast, windowPastMemory_iff]
  · next kind => cases fault <;> simp [Raises, kind, inMemory, notPast, windowPastMemory_iff]
  · cases fault <;> simp_all [Raises]

end

/-- The first check of a running step that fails is the fault that the state raises. -/
theorem stepHazard?_eq_some_iff (sound : state.Sound) (edge : Edge) (fault : Fault) :
    state.stepHazard? edge = some fault ↔ state.Raises fault := by
  by_cases past : 0xFFE < state.pc.toNat
  · -- Every fault but that of the fetch asks for a word in memory.
    rw [stepHazard?, if_pos (sound.pastMemory_iff.mpr past)]
    cases fault <;> simp [Raises, past, Nat.not_le.mpr past]
  · have inMemory := Nat.not_lt.mp past
    rw [stepHazard?, if_neg (mt sound.pastMemory_iff.mp past), fetchedInstruction,
      fetchedWord_eq _ _ inMemory]
    exact hazard?_word_iff sound edge inMemory fault

end State

/-- The fault of a step, for every state that a machine reaches: a running step of a healthy machine
records a fault exactly if the state raises it, and none exactly if it raises none; a step of a
machine that waits for a key records none. -/
theorem reached_step_fault_iff {state : State} (reached : state.Reachable) :
    (state.fault = Fault.healthy → state.mode = Mode.running →
      (∀ fault : Fault, state.step.fault = fault.code ↔ state.Raises fault) ∧
      (state.step.fault = Fault.healthy ↔ ∀ fault, ¬ state.Raises fault)) ∧
    (state.mode = Mode.awaitingKey → state.step.fault = Fault.healthy) := by
  have sound := reached.sound
  refine ⟨fun healthy running => ?_, fun waiting => ?_⟩
  · have recorded : state.step.fault = Fault.codeOf (state.stepHazard? Edge.last) :=
      (State.stepWith_fault _ _ healthy).trans (if_pos running)
    rw [recorded]
    constructor
    · intro fault
      rw [Fault.codeOf_eq_code_iff, State.stepHazard?_eq_some_iff sound]
    · rw [Fault.codeOf_eq_healthy_iff, Option.eq_none_iff_forall_ne_some]
      exact forall_congr' fun fault => not_congr (State.stepHazard?_eq_some_iff sound _ fault)
  · have healthy := (sound.awaiting waiting).1
    have notRunning : state.mode ≠ Mode.running := by
      rw [waiting]
      decide
    exact (State.stepWith_fault _ _ healthy).trans (if_neg notRunning)

/-- A machine about to draw a glyph below the screen. -/
def Machine.drawingBelow : Machine :=
  (Machine.fresh ⟨0, 0⟩ false).after [.load #[0x60, 0xFF, 0xD0, 0x05], .step]

/-- A machine that waits for a key. -/
def Machine.waiting : Machine :=
  (Machine.fresh ⟨0, 0⟩ false).after [.load #[0xF3, 0x0A], .step]

theorem reached_step_fault_iff_drawingBelow :
    Machine.drawingBelow.state.Reachable ∧
    Machine.drawingBelow.state.fault = Fault.healthy ∧
    Machine.drawingBelow.state.mode = Mode.running ∧
    Machine.drawingBelow.state.step.fault = Fault.display.code ∧
    Machine.drawingBelow.state.Raises .display ∧
    Machine.waiting.state.mode = Mode.awaitingKey ∧
    Machine.waiting.state.step.fault = Fault.healthy := by
  have drawing : Machine.drawingBelow.state.Reachable := ⟨_, _, _, rfl⟩
  have healthy : Machine.drawingBelow.state.fault = Fault.healthy := by decide +kernel
  have running : Machine.drawingBelow.state.mode = Mode.running := by decide +kernel
  have faulted : Machine.drawingBelow.state.step.fault = Fault.display.code := by decide +kernel
  have raised := (((reached_step_fault_iff drawing).1 healthy running).1 .display).mp faulted
  have reached : Machine.waiting.state.Reachable := ⟨_, _, _, rfl⟩
  have waits : Machine.waiting.state.mode = Mode.awaitingKey := by decide +kernel
  exact ⟨drawing, healthy, running, faulted, raised, waits,
    (reached_step_fault_iff reached).2 waits⟩

end Chip8
