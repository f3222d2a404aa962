import Chip8.Proofs.KeyWait
import Chip8.Proofs.Writes

/-!
# What a word leaves alone

Carrying out a word changes few fields of the state, and which ones is fixed by the kind of the
word. `State.Frame` says so for every field, on every state, also where the word records a fault and
what it did is discarded later. Over a run the frame of memory is the most useful: it stays as it is
as long as no step keeps a word that writes it.

Results:
1. `execute_frame`: the frame of every word on every state.
2. `step_kept_or_untouched`, `step_memory_of_not_stores`, `step_keypad`: memory and the keypad
   after a step.
3. `memory_after`, `keypad_after`: the same for runs.
4. `word_frame`: the frame of words and of runs.
-/

namespace Chip8

namespace State

/-! ## The frame of a word -/

/-- What a word that is carried out leaves as it was. -/
structure Frame (before : State) (word : Int32) (after : State) : Prop where
  memory : ∀ place : Fin 4096, cellAt after.memory place ≠ cellAt before.memory place →
    before.index.toNat ≤ place.val ∧
      ((classify word = .decimal ∧ place.val ≤ before.index.toNat + 2) ∨
        (classify word = .storeRegisters ∧
          place.val ≤ before.index.toNat + (Word.x word).val))
  display : classify word ∉ [.clearScreen, .draw] → after.display = before.display
  dirty : classify word ∉ [.clearScreen, .draw] → after.dirty = before.dirty
  stack : classify word ∉ [.call, .ret] → after.stack = before.stack
  random : classify word ≠ .random → after.random = before.random
  delayTimer : classify word ≠ .setDelay → after.delayTimer = before.delayTimer
  soundTimer : classify word ≠ .setSound → after.soundTimer = before.soundTimer
  index : classify word ∉ [.setIndex, .addIndex, .glyph] → after.index = before.index
  mode : ¬ (classify word = .awaitKey ∧ ∀ key, cellAt before.keypad key = false) →
    after.mode = before.mode
  waitRegister : ¬ (classify word = .awaitKey ∧ ∀ key, cellAt before.keypad key = false) →
    after.waitRegister = before.waitRegister
  unknownOpcode : classify word ≠ .unknown → after.unknownOpcode = before.unknownOpcode
  /-- Only a jump, a call, a return and a skip whose condition holds move the program counter. -/
  pc : classify word ∉ [.jump, .jumpOffset, .call, .ret] →
    before.skips Edge.last (Instruction.decode word) = false → after.pc = before.pc
  keypad : after.keypad = before.keypad
  opcode : after.opcode = before.opcode
  tone : after.tone = before.tone
  /-- A load reaches registers that it does not name, but none behind `VX`. -/
  registers : ∀ register, register ≠ Word.x word → register ≠ Registers.flag →
    ¬ (classify word = .loadRegisters ∧ register ≤ Word.x word) →
    after.register register = before.register register
  flag : Word.x word ≠ Registers.flag →
    classify word ∉ [.addByte, .add, .subtract, .shiftRight, .subtractFrom, .shiftLeft, .addIndex,
      .draw] →
    after.register Registers.flag = before.register Registers.flag

variable {state : State}

theorem cellAt_memory_of_ne {instruction : Instruction} {edge : Edge} {place : Fin 4096}
    (changed : cellAt (state.performWith edge instruction).memory place ≠
      cellAt state.memory place) :
    state.index.toNat ≤ place.val ∧
      place.val < state.index.toNat + (state.bytesWritten instruction).length := by
  rw [performWith_memory] at changed
  have inside := mt cellAt_write_of_outside changed
  omega

theorem execute_frame (state : State) (word : Int32) : state.Frame word (state.execute word) := by
  have kind := Instruction.op_decode word
  have result : state.execute word = state.performWith Edge.last (Instruction.decode word) := rfl
  rw [result]
  exact {
    memory := fun place changed => by
      obtain ⟨reached, inside⟩ := cellAt_memory_of_ne changed
      rw [length_bytesWritten_decode] at inside
      refine ⟨reached, ?_⟩
      split at inside
      · next decimal => exact .inl ⟨decimal, by omega⟩
      · next store => exact .inr ⟨store, Nat.le_of_lt_succ inside⟩
      · omega
    display := fun other => by
      rw [← kind] at other
      rw [performWith_display]
      split <;> simp_all [Instruction.op]
    dirty := fun other => by
      rw [← kind] at other
      rw [performWith_dirty]
      split <;> simp_all [Instruction.op]
    stack := fun other => by
      rw [← kind] at other
      rw [performWith_stack]
      split <;> simp_all [Instruction.op]
    random := fun other => by
      rw [← kind] at other
      rw [performWith_random]
      split <;> simp_all [Instruction.op]
    delayTimer := fun other => by
      rw [← kind] at other
      rw [performWith_delayTimer]
      split <;> simp_all [Instruction.op]
    soundTimer := fun other => by
      rw [← kind] at other
      rw [performWith_soundTimer]
      split <;> simp_all [Instruction.op]
    index := fun other => by
      rw [← kind] at other
      rw [performWith_index]
      split <;> simp_all [Instruction.op]
    mode := fun other => by
      rw [← kind, ← Keypad.lowest?_eq_none_iff] at other
      rw [performWith_mode]
      split <;> simp_all [Instruction.op]
    waitRegister := fun other => by
      rw [← kind, ← Keypad.lowest?_eq_none_iff] at other
      rw [performWith_waitRegister]
      split <;> simp_all [Instruction.op]
    unknownOpcode := fun other => by
      rw [← kind] at other
      rw [performWith_unknownOpcode]
      split <;> simp_all [Instruction.op]
    pc := fun other unskipped => by
      rw [← kind] at other
      rw [performWith_pc]
      split <;> simp_all [Instruction.op]
    keypad := performWith_keypad ..
    opcode := performWith_opcode ..
    tone := performWith_tone ..
    registers := fun register notX notFlag notLoaded =>
      register_performWith_of_not_writes _ _ fun writes => by
        rcases writes_decode writes with isX | ⟨isFlag, -⟩ | loaded
        · exact notX isX
        · exact notFlag isFlag
        · exact notLoaded loaded
    flag := fun notX noFlag =>
      register_performWith_of_not_writes _ _ fun writes => by
        rcases writes_decode writes with isX | ⟨-, flags⟩ | ⟨-, loaded⟩
        · exact notX isX.symm
        · exact noFlag flags
        · -- Only a load up to `VF` reaches `VF`.
          have bound := Fin.le_def.mp loaded
          exact notX (Fin.ext (Nat.le_antisymm (by simp [Registers.flag]; omega) bound)) }

/-! ## Steps -/

/-- The next step keeps a word that writes memory. -/
def Stores (state : State) : Prop :=
  state.mode = Mode.running ∧ state.step.fault = Fault.healthy ∧
    classify state.fetch.word.toUInt32.toInt32 ∈ [.decimal, .storeRegisters]

instance (state : State) : Decidable state.Stores :=
  inferInstanceAs (Decidable (_ ∧ _ ∧ _))

/-- A step that is kept leaves memory as its word does. -/
theorem memory_executedWith_of_not_stores
    (other : classify state.fetch.word.toUInt32.toInt32 ∉ [.decimal, .storeRegisters]) :
    (state.clearReports.executedWith Edge.last).memory = state.memory := by
  refine cells_ext fun place => ?_
  by_contra changed
  obtain ⟨reached, inside⟩ := cellAt_memory_of_ne changed
  have kind : (state.clearReports.fetchedInstruction Edge.last) =
      Instruction.decode state.fetch.word.toUInt32.toInt32 := rfl
  rw [kind, length_bytesWritten_decode] at inside
  split at inside
  · next decimal => exact other (by simp [decimal])
  · next store => exact other (by simp [store])
  · omega

/-- A step keeps what its word did, or it leaves memory and the keypad. -/
theorem step_kept_or_untouched (state : State) :
    (state.mode = Mode.running ∧ state.step.fault = Fault.healthy ∧
      state.step = (state.clearReports.executedWith Edge.last).tickIfRunning) ∨
    (state.step.memory = state.memory ∧ state.step.keypad = state.keypad) := by
  by_cases healthy : state.fault = Fault.healthy
  · by_cases running : state.mode = Mode.running
    · cases found : state.stepHazard? Edge.last with
      | none =>
        refine .inl ⟨running, ?_, stepWith_of_no_hazard _ _ healthy running found⟩
        rw [step, stepWith_fault _ _ healthy, if_pos running, found, Fault.codeOf_none]
      | some fault =>
        rw [step, stepWith_of_hazard _ _ healthy running found]
        exact .inr ⟨rfl, rfl⟩
    · rw [step, stepWith_of_waiting _ _ healthy running, pollKeypad_eq]
      split <;> exact .inr ⟨rfl, rfl⟩
  · rw [step, stepWith_of_fault _ _ healthy]
    exact .inr ⟨rfl, rfl⟩

/-- Memory stays unless the step keeps a word that writes it. -/
theorem step_memory_of_not_stores (quiet : ¬ state.Stores) : state.step.memory = state.memory := by
  rcases state.step_kept_or_untouched with ⟨running, kept, result⟩ | ⟨untouched, -⟩
  · rw [result, tickIfRunning_eq]
    exact memory_executedWith_of_not_stores fun stores => quiet ⟨running, kept, stores⟩
  · exact untouched

/-- No step moves a key. -/
theorem step_keypad (state : State) : state.step.keypad = state.keypad := by
  rcases state.step_kept_or_untouched with ⟨-, -, result⟩ | ⟨-, untouched⟩
  · rw [result, tickIfRunning_eq]
    exact performWith_keypad ..
  · exact untouched

end State

namespace Machine

variable {machine : Machine}

/-! ## Runs -/

theorem obey_memory {command : Command}
    (kept : command ≠ .reset ∧ ∀ program, command ≠ .load program)
    (quiet : command = .step → ¬ machine.state.Stores) :
    (machine.obey command).machine.state.memory = machine.state.memory := by
  rw [obey_state]
  cases command with
  | reset => exact absurd rfl kept.1
  | load program => exact absurd rfl (kept.2 program)
  | step =>
    simp only
    split
    · rfl
    · exact State.step_memory_of_not_stores (quiet rfl)
  | keyDown key | keyUp key => simp only [setKey_state]
  | readDisplay | displayDirty | soundActive => rfl

/-- Memory stays over a run with no load, no reset and no step that writes it. -/
theorem memory_after {commands : List Command}
    (kept : ∀ command ∈ commands, command ≠ .reset ∧ ∀ program, command ≠ .load program)
    (quiet : ∀ stepped ∈ machine.steppedFrom commands, ¬ stepped.Stores) :
    (machine.after commands).state.memory = machine.state.memory := by
  induction commands generalizing machine with
  | nil => rfl
  | cons command rest ih =>
    rw [List.forall_mem_cons] at kept
    rw [forall_steppedFrom_cons] at quiet
    rw [after_cons, ih kept.2 quiet.2, obey_memory kept.1 quiet.1]

theorem obey_keypad {command : Command}
    (kept : command ≠ .reset ∧ ∀ key, command ≠ .keyDown key ∧ command ≠ .keyUp key) :
    (machine.obey command).machine.state.keypad = machine.state.keypad := by
  rw [obey_state]
  cases command with
  | reset => exact absurd rfl kept.1
  | keyDown key => exact absurd rfl (kept.2 key).1
  | keyUp key => exact absurd rfl (kept.2 key).2
  | step =>
    simp only
    split
    · rfl
    · exact State.step_keypad _
  | load program => simp only [load_state]
  | readDisplay | displayDirty | soundActive => rfl

/-- Only a host moves the keys: the keypad stays over a run with no reset in which it moves none. -/
theorem keypad_after {commands : List Command}
    (kept : ∀ command ∈ commands,
      command ≠ .reset ∧ ∀ key, command ≠ .keyDown key ∧ command ≠ .keyUp key) :
    (machine.after commands).state.keypad = machine.state.keypad := by
  induction commands generalizing machine with
  | nil => rfl
  | cons command rest ih =>
    rw [List.forall_mem_cons] at kept
    rw [after_cons, ih kept.2, obey_keypad kept.1]

end Machine

/-- Words and runs change only what they are about. Every word that is carried out on any state
leaves the fields that its kind does not name, and of memory, of the registers and of `VF` it
changes no more than `State.Frame` allows. Over a run of any machine with no load and no reset
memory stays byte for byte, unless a step keeps a word that writes it, and no run of steps moves a
key. -/
theorem word_frame :
    (∀ (state : State) (word : Int32), state.Frame word (state.execute word)) ∧
    (∀ (machine : Machine) (commands : List Machine.Command),
      (∀ command ∈ commands, command ≠ .reset ∧ ∀ program, command ≠ .load program) →
      (∀ stepped ∈ machine.steppedFrom commands, ¬ stepped.Stores) →
      (machine.after commands).state.memory = machine.state.memory) ∧
    (∀ (machine : Machine) (commands : List Machine.Command),
      (∀ command ∈ commands,
        command ≠ .reset ∧ ∀ key, command ≠ .keyDown key ∧ command ≠ .keyUp key) →
      (machine.after commands).state.keypad = machine.state.keypad) :=
  ⟨State.execute_frame, fun _ _ kept quiet => Machine.memory_after kept quiet,
    fun _ _ kept => Machine.keypad_after kept⟩

/-- A machine with a key down that is about to store all registers where memory ends. -/
def Machine.storingAll : Machine :=
  (Machine.fresh ⟨0, 0⟩ false).after
    [.load #[0x60, 0x2A, 0xAF, 0xFC, 0xFF, 0x55], .keyDown 5, .step, .step]

/-- The store faults, so that memory stays over the run with it. Carried out by itself its word
still leaves the byte before `I`, and the program counter. -/
theorem word_frame_storingAll :
    let state := Machine.storingAll.state
    let run : List Machine.Command := [.readDisplay, .step, .keyUp 5, .keyDown 7, .step]
    let steps : List Machine.Command := [.step, .step]
    (∀ command ∈ run, command ≠ .reset ∧ ∀ program, command ≠ .load program) ∧
    (∀ stepped ∈ Machine.storingAll.steppedFrom run, ¬ stepped.Stores) ∧
    (∀ command ∈ steps,
      command ≠ .reset ∧ ∀ key, command ≠ .keyDown key ∧ command ≠ .keyUp key) ∧
    (Machine.storingAll.after run).state.memory = state.memory ∧
    (Machine.storingAll.after steps).state.keypad = state.keypad ∧
    cellAt state.memory 0xFFC = 0 ∧ cellAt (state.execute 0xFF55).memory 0xFFC = 0x2A ∧
    cellAt (state.execute 0xFF55).memory 0xFFB = cellAt state.memory 0xFFB ∧
    (state.execute 0xFF55).pc = state.pc := by
  intro state run steps
  have kept : ∀ command ∈ run, command ≠ .reset ∧ ∀ program, command ≠ .load program := by
    simp [run]
  have keptKeys : ∀ command ∈ steps,
      command ≠ .reset ∧ ∀ key, command ≠ .keyDown key ∧ command ≠ .keyUp key := by
    simp [steps]
  obtain ⟨quiet, start, old, new⟩ :
      (∀ stepped ∈ Machine.storingAll.steppedFrom run, ¬ stepped.Stores) ∧
      state.index.toNat = 0xFFC ∧
      cellAt state.memory 0xFFC = 0 ∧ cellAt (state.execute 0xFF55).memory 0xFFC = 0x2A := by
    decide +kernel
  obtain ⟨frames, memories, keypads⟩ := word_frame
  have frame := frames state 0xFF55
  have before : cellAt (state.execute 0xFF55).memory 0xFFB = cellAt state.memory 0xFFB := by
    by_contra changed
    have reached := (frame.memory 0xFFB changed).1
    rw [start] at reached
    exact absurd reached (by decide)
  exact ⟨kept, quiet, keptKeys, memories _ _ kept quiet, keypads _ _ keptKeys, old, new,
    before, frame.pc (by decide) (by decide)⟩

end Chip8
