import Chip8.Proofs.Effect

/-!
# The outcomes of a step

A step has one of four outcomes. A halted machine only loses its reports, a machine that waits for
a key looks at the keypad, and a running machine either discards what it did, for a fault, or keeps
it and counts its timers down. Which of the last two it is depends on the first check that fails in
the fetch and in the instruction, `stepHazard?`.

Results:
1. `stepWith_of_fault`, `stepWith_of_waiting`: the outcomes without an instruction.
2. `stepWith_of_hazard`, `stepWith_of_no_hazard`: the outcomes of a running machine.
-/

namespace Chip8

/-- The instruction that a 16-bit word stands for. -/
def Instruction.ofWord (word : UInt16) : Instruction :=
  decode word.toUInt32.toInt32

namespace State

variable (edge : Edge) (state : State)

/-! ## The word at the program counter -/

/-- The byte at an address, and zero past the end of memory. -/
def byteAt (address : Nat) : UInt8 :=
  state.memory[address]?.getD 0

/-- The word at the program counter, its first byte the higher one. -/
def word : UInt16 :=
  UInt16.ofNat
    (0x100 * (state.byteAt state.pc.toNat).toNat + (state.byteAt (state.pc.toNat + 1)).toNat)

/-- The word at the program counter as a fetch reads it. -/
def fetchedWord : UInt16 :=
  (state.fetchWith edge).word

/-- The instruction that a fetch reads. -/
def fetchedInstruction : Instruction :=
  Instruction.ofWord (state.fetchedWord edge)

/-- The state after fetch and instruction, before the timers count and faults are discarded. -/
def executedWith : State :=
  (state.fetchWith edge).state.performWith edge (state.fetchedInstruction edge)

/-- The check of a running step that fails first, if one does. -/
def stepHazard? : Option Fault :=
  if 0xFFF < state.pc + 1 then some .memory
  else state.hazard? edge (state.fetchedInstruction edge)

/-! ## Fetch, timers and commit -/

/-- A sum of addresses that fits in sixteen bits does not wrap. -/
theorem toNat_add_of_lt {one other : UInt16} (fits : one.toNat + other.toNat < 0x10000) :
    (one + other).toNat = one.toNat + other.toNat :=
  (UInt16.toNat_add one other).trans (Nat.mod_eq_of_lt fits)

theorem fetchWith_state :
    (state.fetchWith edge).state =
      { state with
        pc := state.pc + 2
        opcode := state.fetchedWord edge
        fault :=
          if 0xFFF < state.pc + 1 ∧ state.fault = Fault.healthy then Fault.memory.code
          else state.fault } := by
  simp [fetchedWord, fetchWith, latch]

theorem readMemory_eq_byteAt {address : Nat} (inside : address < 4096) :
    state.readMemory edge address = state.byteAt address := by
  rw [readMemory, readCell_of_lt inside, byteAt, Vector.getElem?_eq_getElem inside]
  rfl

/-- Inside memory a fetch reads the word, whatever lies past the end. -/
theorem fetchedWord_eq (inMemory : state.pc.toNat ≤ 0xFFE) :
    state.fetchedWord edge = state.word := by
  have second : (state.pc + 1).toNat = state.pc.toNat + 1 :=
    toNat_add_of_lt (show _ + 1 < _ by omega)
  have high := (state.byteAt state.pc.toNat).toNat_lt
  have low := (state.byteAt (state.pc.toNat + 1)).toNat_lt
  have word : state.fetchedWord edge =
      (state.byteAt state.pc.toNat).toUInt16 <<< 8 |||
        (state.byteAt (state.pc.toNat + 1)).toUInt16 := by
    rw [← readMemory_eq_byteAt _ _ (by omega), ← readMemory_eq_byteAt _ _ (by omega), ← second]
    rfl
  rw [word, State.word, ← UInt16.toNat_inj]
  simp only [UInt16.toNat_or, UInt16.toNat_shiftLeft, UInt8.toNat_toUInt16, UInt16.toNat_ofNat',
    UInt16.reduceToNat, Nat.reduceMod]
  -- The second byte fits below the first, so that joining the two is adding them.
  rw [Nat.shiftLeft_eq, Nat.mod_eq_of_lt (by omega), Nat.mod_eq_of_lt (by omega), Nat.mul_comm]
  exact (Nat.two_pow_add_eq_or_of_lt low _).symm

/-- A fetch moves nothing that the checks of the instructions look at. -/
theorem hazard?_fetchWith (instruction : Instruction) :
    (state.fetchWith edge).state.hazard? edge instruction = state.hazard? edge instruction := by
  cases instruction <;> rfl

theorem skips_fetchWith (instruction : Instruction) :
    (state.fetchWith edge).state.skips edge instruction = state.skips edge instruction := by
  cases instruction <;> rfl

/-- A timer counts down as a number does and stops at zero. -/
theorem toNat_countDown (timer : UInt8) :
    (if 0 < timer then timer - 1 else timer).toNat = timer.toNat - 1 := by
  split
  · next counts =>
    have one : (1 : UInt8) ≤ timer := by
      rw [UInt8.lt_iff_toNat_lt] at counts
      rw [UInt8.le_iff_toNat_le]
      exact counts
    rw [UInt8.toNat_sub_of_le _ _ one]
    rfl
  · next stopped =>
    rw [UInt8.lt_iff_toNat_lt, UInt8.toNat_zero] at stopped
    omega

theorem tickIfRunning_eq :
    state.tickIfRunning =
      { state with
        delayTimer := if state.mode = Mode.running then state.tick.delayTimer else state.delayTimer
        soundTimer := if state.mode = Mode.running then state.tick.soundTimer else state.soundTimer
        tone := if state.mode = Mode.running then state.tick.tone else state.tone } := by
  unfold tickIfRunning
  split <;> rfl

theorem toNat_tick_delayTimer : state.tick.delayTimer.toNat = state.delayTimer.toNat - 1 :=
  toNat_countDown state.delayTimer

theorem toNat_tick_soundTimer : state.tick.soundTimer.toNat = state.soundTimer.toNat - 1 :=
  toNat_countDown state.soundTimer

theorem cycleWith_eq :
    state.cycleWith edge = state.commit (state.executedWith edge).tickIfRunning :=
  rfl

/-! ## Fields after fetch and instruction -/

theorem executedWith_pc :
    (state.executedWith edge).pc =
      match state.fetchedInstruction edge with
      | .ret => state.stack.top edge + 2
      | .jump target | .call target => target
      | .jumpOffset base => base + (state.register Registers.offset).toUInt16
      | _ =>
        if state.skips edge (state.fetchedInstruction edge) then state.pc + 4
        else state.pc + 2 := by
  have skipped : (state.fetchWith edge).state.pc + 2 = state.pc + 4 := UInt16.add_assoc ..
  rw [executedWith, performWith_pc, skips_fetchWith, skipped]
  rfl

theorem executedWith_index :
    (state.executedWith edge).index =
      match state.fetchedInstruction edge with
      | .setIndex address => address
      | .addIndex x => UInt16.ofNat ((state.index.toNat + (state.register x).toNat) % 0x1000)
      | .glyph x => UInt16.ofNat (fontStart + (state.register x).toNat * glyphSize)
      | _ => state.index :=
  performWith_index ..

/-- A call saves its own address, which the fetch has moved past. -/
theorem executedWith_stack :
    (state.executedWith edge).stack =
      match state.fetchedInstruction edge with
      | .ret => state.stack.pop
      | .call _ => state.stack.push state.pc
      | _ => state.stack := by
  have back : (state.fetchWith edge).state.pc - 2 = state.pc := UInt16.add_sub_cancel ..
  rw [executedWith, performWith_stack, back]
  rfl

theorem executedWith_mode :
    (state.executedWith edge).mode =
      match state.fetchedInstruction edge with
      | .awaitKey _ => if state.keypad.lowest? = none then Mode.awaitingKey else state.mode
      | _ => state.mode :=
  performWith_mode ..

theorem executedWith_waitRegister :
    (state.executedWith edge).waitRegister =
      match state.fetchedInstruction edge with
      | .awaitKey x => if state.keypad.lowest? = none then UInt8.ofNat x else state.waitRegister
      | _ => state.waitRegister :=
  performWith_waitRegister ..

theorem executedWith_unknownOpcode :
    (state.executedWith edge).unknownOpcode =
      match state.fetchedInstruction edge with
      | .unknown _ => true
      | _ => state.unknownOpcode :=
  performWith_unknownOpcode ..

theorem executedWith_tone : (state.executedWith edge).tone = state.tone :=
  performWith_tone ..

theorem executedWith_opcode : (state.executedWith edge).opcode = state.fetchedWord edge :=
  performWith_opcode ..

theorem executedWith_fault (healthy : state.fault = Fault.healthy) :
    (state.executedWith edge).fault = Fault.codeOf (state.stepHazard? edge) := by
  unfold executedWith stepHazard?
  by_cases pastMemory : 0xFFF < state.pc + 1
  · have faulty : (state.fetchWith edge).state.fault = Fault.memory.code := by
      simp [fetchWith_state, pastMemory, healthy]
    rw [performWith_fault_of_ne _ _ (faulty ▸ Fault.code_ne_healthy _), faulty, if_pos pastMemory]
    rfl
  · have healthyNext : (state.fetchWith edge).state.fault = Fault.healthy := by
      simp [fetchWith_state, pastMemory, healthy]
    rw [performWith_fault _ _ healthyNext, if_neg pastMemory, hazard?_fetchWith]

/-! ## Outcomes -/

/-- The reports of the last step have no part in what the next one checks. -/
theorem stepHazard?_clearReports : state.clearReports.stepHazard? edge = state.stepHazard? edge :=
  rfl

theorem fetchedInstruction_clearReports :
    state.clearReports.fetchedInstruction edge = state.fetchedInstruction edge :=
  rfl

theorem stepWith_of_fault (faulty : state.fault ≠ Fault.healthy) :
    state.stepWith edge = state.clearReports :=
  if_neg faulty

theorem stepWith_of_waiting (healthy : state.fault = Fault.healthy)
    (waiting : state.mode ≠ Mode.running) :
    state.stepWith edge = state.clearReports.pollKeypad :=
  (if_pos healthy).trans (if_neg waiting)

theorem stepWith_of_running (healthy : state.fault = Fault.healthy)
    (running : state.mode = Mode.running) :
    state.stepWith edge = state.clearReports.cycleWith edge :=
  (if_pos healthy).trans (if_pos running)

/-- A running step that fails a check is discarded but for the fault and the word. -/
theorem stepWith_of_hazard {fault : Fault} (healthy : state.fault = Fault.healthy)
    (running : state.mode = Mode.running) (found : state.stepHazard? edge = some fault) :
    state.stepWith edge =
      { state.clearReports with fault := fault.code, opcode := state.fetchedWord edge } := by
  have recorded : (state.clearReports.executedWith edge).fault = fault.code := by
    rw [executedWith_fault _ state.clearReports healthy, stepHazard?_clearReports, found,
      Fault.codeOf_some]
  rw [stepWith_of_running _ _ healthy running, cycleWith_eq, commit, tickIfRunning_eq]
  simp only [recorded, Fault.code_ne_healthy, if_false, executedWith_opcode]
  rfl

/-- A running step that passes every check is kept. -/
theorem stepWith_of_no_hazard (healthy : state.fault = Fault.healthy)
    (running : state.mode = Mode.running) (passed : state.stepHazard? edge = none) :
    state.stepWith edge = (state.clearReports.executedWith edge).tickIfRunning := by
  have recorded : (state.clearReports.executedWith edge).fault = Fault.healthy := by
    rw [executedWith_fault _ state.clearReports healthy, stepHazard?_clearReports, passed,
      Fault.codeOf_none]
  rw [stepWith_of_running _ _ healthy running, cycleWith_eq, commit, if_pos]
  rw [tickIfRunning_eq]
  exact recorded

theorem pollKeypad_eq :
    state.pollKeypad =
      match state.keypad.lowest? with
      | some key =>
        { state.tick with
          registers := state.registers.setIfInBounds state.waitRegister.toNat (UInt8.ofNat key)
          mode := Mode.running }
      | none => state :=
  rfl

/-- The fault that a step of a healthy machine leaves. -/
theorem stepWith_fault (healthy : state.fault = Fault.healthy) :
    (state.stepWith edge).fault =
      if state.mode = Mode.running then Fault.codeOf (state.stepHazard? edge)
      else Fault.healthy := by
  split
  · next running =>
    cases found : state.stepHazard? edge with
    | none =>
      rw [stepWith_of_no_hazard _ _ healthy running found, tickIfRunning_eq]
      exact (executedWith_fault _ state.clearReports healthy).trans (congrArg Fault.codeOf found)
    | some fault => rw [stepWith_of_hazard _ _ healthy running found]; rfl
  · next waiting =>
    rw [stepWith_of_waiting _ _ healthy waiting, pollKeypad_eq]
    split <;> exact healthy

variable {state : State}

theorem step_fault_of_running (healthy : state.fault = Fault.healthy)
    (running : state.mode = Mode.running) :
    state.step.fault = Fault.codeOf (state.stepHazard? Edge.last) :=
  (stepWith_fault _ _ healthy).trans (if_pos running)

end State

end Chip8
