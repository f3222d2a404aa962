import Chip8.Proofs.Drawing
import Chip8.Proofs.Independence
import Chip8.Proofs.Run
import Chip8.Proofs.Writes

/-!
# The bytes that a step depends on

A step looks at more bytes than its word is about: a store and a load go through sixteen addresses,
and a sprite is read with sixteen rows. What it depends on is the word itself, the rows of a sprite
that is drawn, and the bytes of the registers that are loaded. Two machines that differ in other
bytes only take the same step, and memory stays as different as it was but for the bytes that are
written.

Results:
1. `hazard?_withMemory`, `performWith_withMemory`: checks and effect of an instruction on two
   memories with the same bytes where it reads.
2. `Sound.step_withMemory`: the same for a step inside memory.
3. `reached_steps_agree`: two machines that differ in bytes that the step does not read.
-/

namespace Chip8

namespace State

/-- The same state with another memory. -/
def withMemory (state : State) (memory : Memory) : State :=
  { state with memory := memory }

/-- Whether the instruction depends on the byte at an address. -/
def ReadsFor (state : State) (address : Nat) : Instruction → Prop
  | .draw _ _ height =>
    state.index.toNat ≤ address ∧ address < state.index.toNat + height.val
  | .loadRegisters x => state.index.toNat ≤ address ∧ address ≤ state.index.toNat + x.val
  | _ => False

/-- Another memory has the same bytes where the instruction depends on them. -/
def SameFor (state : State) (memory : Memory) (instruction : Instruction) : Prop :=
  ∀ address ≤ 0xFFF, state.ReadsFor address instruction →
    (state.withMemory memory).byteAt address = state.byteAt address

variable {state : State} {memory : Memory} {edge : Edge}

/-! ## Instructions -/

/-- The rows of a sprite that is in memory are all that its cells depend on. -/
theorem sprite_cells_withMemory {x y height : Fin 16} (edge : Edge)
    (inMemory : ∀ row < height.val, state.index.toNat + row ≤ 0xFFF)
    (same : state.SameFor memory (.draw x y height)) :
    ((state.withMemory memory).sprite edge x y height).cells =
      (state.sprite edge x y height).cells := by
  refine Sprite.cells_congr rfl rfl rfl fun row counts => ?_
  have inside := inMemory row counts
  have byte := same (state.index.toNat + row) inside
    ⟨Nat.le_add_right _ _, Nat.add_lt_add_left counts _⟩
  rw [cellAt_sprite_rows, cellAt_sprite_rows,
    readMemory_eq_byteAt _ state (Nat.lt_succ_of_le inside), ← byte]
  exact readMemory_eq_byteAt _ _ (Nat.lt_succ_of_le inside)

/-- The first check that fails does not depend on other bytes. -/
theorem hazard?_withMemory {instruction : Instruction} (edge : Edge)
    (same : state.SameFor memory instruction) :
    (state.withMemory memory).hazard? edge instruction = state.hazard? edge instruction := by
  cases instruction with
  | draw x y height =>
    simp only [hazard?]
    by_cases past : 0 < height.val ∧ 0xFFF < state.index.toNat + height.val - 1
    · exact (if_pos past).trans (if_pos past).symm
    · have inMemory := not_not.mp (mt (spritePastMemory_iff height).mpr past)
      rw [if_neg past, ← Sprite.isOffScreen_congr (sprite_cells_withMemory edge inMemory same)]
      exact if_neg past
  | _ => rfl

theorem draw_withMemory {x y height : Fin 16}
    (passed : state.hazard? edge (.draw x y height) = none)
    (same : state.SameFor memory (.draw x y height)) :
    (state.withMemory memory).draw edge x y height =
      (state.draw edge x y height).withMemory memory := by
  obtain ⟨inMemory, onScreen⟩ := hazard?_draw_eq_none_iff.mp passed
  have passedNext := (hazard?_withMemory edge same).trans passed
  have cells := (sprite_cells_withMemory edge inMemory same).symm
  have drawn := Sprite.draw_eq_of_onScreen cells onScreen edge edge state.display
  have collided := Sprite.collides_eq_of_onScreen cells onScreen edge edge state.display
  have display : (state.withMemory memory).display = state.display := rfl
  rw [draw_of_passed passedNext, draw_of_passed passed, display, ← drawn, ← collided]
  rfl

theorem loadRegisters_withMemory {x : Fin 16}
    (passed : state.hazard? edge (.loadRegisters x) = none)
    (same : state.SameFor memory (.loadRegisters x)) :
    (state.withMemory memory).loadRegisters edge x =
      (state.loadRegisters edge x).withMemory memory := by
  have inMemory : state.index.toNat + x.val ≤ 0xFFF := by
    simpa [hazard?, windowPastMemory] using passed
  have loaded : spliceAt x ((state.withMemory memory).window edge) state.registers =
      spliceAt x (state.window edge) state.registers := by
    refine cells_ext fun place => ?_
    rw [cellAt_spliceAt, cellAt_spliceAt, cellAt_window, cellAt_window]
    by_cases counts : place ≤ x
    · have bound := Fin.le_def.mp counts
      have inside : state.index.toNat + place.val < 4096 := by omega
      have byte := same _ (Nat.le_of_lt_succ inside) ⟨Nat.le_add_right _ _, by omega⟩
      rw [if_pos counts, if_pos counts, readMemory_eq_byteAt _ state inside, ← byte]
      exact readMemory_eq_byteAt _ _ inside
    · rw [if_neg counts, if_neg counts]
  rw [loadRegisters, loadRegisters, ← loaded]
  rfl

theorem skipIf_withMemory (condition : Bool) :
    (state.withMemory memory).skipIf condition = (state.skipIf condition).withMemory memory := by
  cases condition <;> rfl

theorem skipIfKey_withMemory (x : Fin 16) (down : Bool) :
    (state.withMemory memory).skipIfKey edge x down =
      (state.skipIfKey edge x down).withMemory memory := by
  simp only [skipIfKey, skipIf_eq]
  rfl

theorem awaitKey_withMemory (x : Fin 16) :
    (state.withMemory memory).awaitKey x = (state.awaitKey x).withMemory memory := by
  rw [awaitKey_eq, awaitKey_eq]
  rfl

/-- Bytes are written to memory and to nothing else. -/
theorem latch_writeMemory_withMemory (address : Nat) (bytes bytes' : List UInt8)
    (condition : Bool) (code : UInt8) (final : Memory) :
    (((state.withMemory memory).writeMemory address bytes).latch condition code).withMemory final =
      ((state.writeMemory address bytes').latch condition code).withMemory final :=
  rfl

/-- Apart from memory an instruction that passes its check does the same. -/
theorem performWith_withMemory_fields {instruction : Instruction}
    (passed : state.hazard? edge instruction = none)
    (same : state.SameFor memory instruction) (final : Memory) :
    ((state.withMemory memory).performWith edge instruction).withMemory final =
      (state.performWith edge instruction).withMemory final := by
  cases instruction with
  | draw x y height =>
    exact congrArg (·.withMemory final) (draw_withMemory passed same)
  | loadRegisters x =>
    exact congrArg (·.withMemory final) (loadRegisters_withMemory passed same)
  | skipEqByte | skipNeByte | skipEqRegister | skipNeRegister =>
    exact congrArg (·.withMemory final) (skipIf_withMemory _)
  | skipKeyDown x | skipKeyUp x =>
    exact congrArg (·.withMemory final) (skipIfKey_withMemory x _)
  | awaitKey x => exact congrArg (·.withMemory final) (awaitKey_withMemory x)
  | decimal | storeRegisters => exact latch_writeMemory_withMemory _ _ _ _ _ final
  | _ => rfl

/-- An instruction that passes its check writes the same bytes and does the same otherwise. -/
theorem performWith_withMemory {instruction : Instruction}
    (passed : state.hazard? edge instruction = none)
    (same : state.SameFor memory instruction) :
    (state.withMemory memory).performWith edge instruction =
      (state.performWith edge instruction).withMemory
        (memory.write state.index.toNat (state.bytesWritten instruction)) := by
  have written : ((state.withMemory memory).performWith edge instruction).memory =
      memory.write state.index.toNat (state.bytesWritten instruction) := by
    rw [performWith_memory]
    cases instruction <;> rfl
  rw [← performWith_withMemory_fields passed same, ← written]
  rfl

/-! ## Steps -/

theorem tickIfRunning_withMemory (state : State) (memory : Memory) :
    (state.withMemory memory).tickIfRunning = state.tickIfRunning.withMemory memory := by
  rw [tickIfRunning_eq, tickIfRunning_eq]
  rfl

/-- Whether the next step depends on the byte at an address: the two of the word, the rows of a
sprite that it draws, and the registers that it loads. It depends on none if the word is not in
memory. -/
def Reads (state : State) (address : Nat) : Prop :=
  state.pc.toNat ≤ 0xFFE ∧ address ≤ 0xFFF ∧
    (address = state.pc.toNat ∨ address = state.pc.toNat + 1 ∨
      (state.word &&& 0xF000 = 0xD000 ∧ state.index.toNat ≤ address ∧
        address < state.index.toNat + (Word.n state.operands).val) ∨
      (state.word &&& 0xF0FF = 0xF065 ∧ state.index.toNat ≤ address ∧
        address ≤ state.index.toNat + (Word.x state.operands).val))

/-- Whether the next step writes the byte at an address, with a word that it keeps. -/
def WritesByte (state : State) (address : Nat) : Prop :=
  state.step.fault = Fault.healthy ∧ state.index.toNat ≤ address ∧
    ((state.word &&& 0xF0FF = 0xF033 ∧ address ≤ state.index.toNat + 2) ∨
      (state.word &&& 0xF0FF = 0xF055 ∧
        address ≤ state.index.toNat + (Word.x state.operands).val))

/-- The bytes that the next step writes, the first of them at `I`. -/
def stepBytes (state : State) : List UInt8 :=
  (state.committed?.map state.bytesWritten).getD []

theorem readsFor_ofWord_iff (address : Nat) :
    state.ReadsFor address (Instruction.ofWord state.word) ↔
      (state.word &&& 0xF000 = 0xD000 ∧ state.index.toNat ≤ address ∧
        address < state.index.toNat + (Word.n state.operands).val) ∨
      (state.word &&& 0xF0FF = 0xF065 ∧ state.index.toNat ≤ address ∧
        address ≤ state.index.toNat + (Word.x state.operands).val) := by
  rw [word_draw_iff, word_loadRegisters_iff]
  unfold Instruction.ofWord Instruction.decode
  rw [← operands]
  cases classify state.operands <;> simp [ReadsFor]

theorem lt_length_bytesWritten_ofWord_iff (offset : Nat) :
    offset < (state.bytesWritten (Instruction.ofWord state.word)).length ↔
      (state.word &&& 0xF0FF = 0xF033 ∧ offset ≤ 2) ∨
      (state.word &&& 0xF0FF = 0xF055 ∧ offset ≤ (Word.x state.operands).val) := by
  rw [word_decimal_iff, word_storeRegisters_iff, Instruction.ofWord, length_bytesWritten_decode,
    ← operands]
  split
  · next kind =>
    simp only [kind, true_and, reduceCtorEq, false_and, or_false]
    exact Nat.lt_succ_iff
  · next kind =>
    simp only [kind, reduceCtorEq, false_and, true_and, false_or]
    exact Nat.lt_succ_iff
  · next notDecimal notStore =>
    refine iff_of_false (Nat.not_lt_zero offset) ?_
    rintro (⟨decimal, -⟩ | ⟨store, -⟩)
    · exact notDecimal decimal
    · exact notStore store

/-- The bytes that a step writes are those of the word that it keeps. -/
theorem writesByte_iff (healthy : state.fault = Fault.healthy) (running : state.mode = Mode.running)
    (address : Nat) :
    state.WritesByte address ↔
      state.index.toNat ≤ address ∧ address < state.index.toNat + state.stepBytes.length := by
  unfold WritesByte stepBytes committed?
  by_cases kept : state.step.fault = Fault.healthy
  · rw [if_pos ⟨healthy, running, kept⟩]
    simp only [kept, true_and, Option.map_some, Option.getD_some]
    refine and_congr_right fun reached => ?_
    rw [← Nat.sub_lt_iff_lt_add' reached, lt_length_bytesWritten_ofWord_iff]
    simp only [Nat.sub_le_iff_le_add']
  · rw [if_neg fun committed => kept committed.2.2]
    simp only [kept, false_and, Option.map_none, Option.getD_none, List.length_nil, Nat.add_zero,
      false_iff, not_and, Nat.not_lt]
    exact id

/-- Memory after a step holds the bytes that the step writes and is as it was elsewhere. -/
theorem Sound.step_memory (sound : state.Sound) :
    state.step.memory = state.memory.write state.index.toNat state.stepBytes := by
  cases sound.stepOutcome with
  | kept instruction committed read result =>
    rw [result, stepBytes, committed, tickIfRunning_eq, executedWith]
    simp only [performWith_memory, read]
    cases instruction <;> rfl
  | resolved _ committed _ result | idle committed _ result | discarded _ committed _ result =>
    rw [result, stepBytes, committed]
    rfl

section

variable (same : ∀ address, state.Reads address →
  (state.withMemory memory).byteAt address = state.byteAt address)
include same

/-- The word of a step is among the bytes that it depends on. -/
theorem word_withMemory (inMemory : state.pc.toNat ≤ 0xFFE) :
    (state.withMemory memory).word = state.word := by
  have high := same state.pc.toNat ⟨inMemory, Nat.le_succ_of_le inMemory, .inl rfl⟩
  have low := same (state.pc.toNat + 1) ⟨inMemory, Nat.succ_le_succ inMemory, .inr (.inl rfl)⟩
  rw [word, word, ← high, ← low]
  rfl

theorem fetchedWord_withMemory (inMemory : state.pc.toNat ≤ 0xFFE) :
    (state.withMemory memory).fetchedWord edge = state.fetchedWord edge := by
  rw [fetchedWord_eq _ state inMemory, ← word_withMemory same inMemory]
  exact fetchedWord_eq _ _ inMemory

theorem sameFor_fetchedInstruction (edge : Edge) (inMemory : state.pc.toNat ≤ 0xFFE) :
    state.SameFor memory (state.fetchedInstruction edge) := by
  intro address inside reads
  rw [fetchedInstruction, fetchedWord_eq _ _ inMemory, readsFor_ofWord_iff] at reads
  exact same address ⟨inMemory, inside, .inr (.inr reads)⟩

theorem stepHazard?_withMemory (edge : Edge) (inMemory : state.pc.toNat ≤ 0xFFE) :
    (state.withMemory memory).stepHazard? edge = state.stepHazard? edge := by
  have checks := hazard?_withMemory edge (sameFor_fetchedInstruction same edge inMemory)
  rw [stepHazard?, stepHazard?, ← checks, fetchedInstruction, fetchedInstruction,
    fetchedWord_withMemory same inMemory]
  rfl

theorem executedWith_withMemory (inMemory : state.pc.toNat ≤ 0xFFE)
    (passed : state.stepHazard? edge = none) :
    (state.withMemory memory).executedWith edge =
      (state.executedWith edge).withMemory
        (memory.write state.index.toNat (state.bytesWritten (state.fetchedInstruction edge))) := by
  have fetched : ((state.withMemory memory).fetchWith edge).state =
      (state.fetchWith edge).state.withMemory memory := by
    rw [fetchWith_state, fetchWith_state, fetchedWord_withMemory same inMemory]
    rfl
  have passedNext :
      (state.fetchWith edge).state.hazard? edge (state.fetchedInstruction edge) = none := by
    rw [hazard?_fetchWith]
    exact hazard?_of_passed passed
  have sameNext : (state.fetchWith edge).state.SameFor memory (state.fetchedInstruction edge) := by
    intro address inside reads
    refine sameFor_fetchedInstruction same edge inMemory address inside ?_
    revert reads
    cases state.fetchedInstruction edge <;> exact id
  rw [executedWith, executedWith, fetchedInstruction, fetchedWord_withMemory same inMemory,
    ← fetchedInstruction, fetched, performWith_withMemory passedNext sameNext]
  cases state.fetchedInstruction edge <;> rfl

/-- A step on another memory with the same bytes where it reads writes the same bytes and does the
same otherwise. -/
theorem Sound.step_withMemory (sound : state.Sound) (healthy : state.fault = Fault.healthy)
    (running : state.mode = Mode.running) (inMemory : state.pc.toNat ≤ 0xFFE) :
    (state.withMemory memory).step =
      state.step.withMemory (memory.write state.index.toNat state.stepBytes) := by
  have healthyNext : (state.withMemory memory).fault = Fault.healthy := healthy
  have runningNext : (state.withMemory memory).mode = Mode.running := running
  have checks := stepHazard?_withMemory same Edge.last inMemory
  cases found : state.stepHazard? Edge.last with
  | none =>
    have committed := sound.committed_of_passed healthy running inMemory rfl
      (by rw [← sound.stepHazard?_of_inMemory _ inMemory]; exact found)
    have read := sound.read_of_committed committed
    rw [step, step, stepWith_of_no_hazard _ _ healthyNext runningNext (checks.trans found),
      stepWith_of_no_hazard _ _ healthy running found, stepBytes, committed, ← read]
    have executed : (state.clearReports.withMemory memory).executedWith Edge.last = _ :=
      executedWith_withMemory same inMemory found
    exact (congrArg tickIfRunning executed).trans (tickIfRunning_withMemory _ _)
  | some fault =>
    have discarded : state.committed? = none :=
      (committed?_eq_none_iff healthy running).mpr (by simp [found])
    rw [step, step, stepWith_of_hazard _ _ healthyNext runningNext (checks.trans found),
      stepWith_of_hazard _ _ healthy running found, fetchedWord_withMemory same inMemory, stepBytes,
      discarded]
    rfl

/-- The same for any running step, also past the end of memory, where the words may differ. -/
theorem Sound.step_withMemory_of_running (sound : state.Sound)
    (healthy : state.fault = Fault.healthy) (running : state.mode = Mode.running) :
    (state.withMemory memory).step =
      { state.step with
        memory := memory.write state.index.toNat state.stepBytes
        opcode := (state.withMemory memory).step.opcode } := by
  rcases Nat.lt_or_ge 0xFFE state.pc.toNat with past | inMemory
  · have soundNext : (state.withMemory memory).Sound := { sound with }
    have discarded : state.committed? = none := by
      rw [committed?_eq_none_iff healthy running,
        (stepHazard?_eq_some_iff sound _ .memory).mpr (.inl past)]
      simp
    rw [step, step, stepWith_of_pastMemory sound healthy running past,
      stepWith_of_pastMemory soundNext healthy running past, stepBytes, discarded]
    rfl
  · rw [sound.step_withMemory same healthy running inMemory]
    rfl

end

end State

/-- A step depends on no other bytes than its word is about. Take two machines that agree but for
their memory, one of them in a state that a machine reaches, and let their memories agree on the
word at the program counter, on the rows of a sprite that it draws and on the registers that it
loads. Their next steps record the same fault or none and agree but for memory; where no whole word
lies in memory, the word that is recorded may differ too. The bytes that the step writes are equal
in both, and each machine keeps all its other bytes. -/
theorem reached_steps_agree {one other : State} (reached : one.Reachable)
    (healthy : one.fault = Fault.healthy) (running : one.mode = Mode.running)
    (alike : other = { one with memory := other.memory })
    (same : ∀ address, one.Reads address → other.byteAt address = one.byteAt address) :
    other.step.fault = one.step.fault ∧
    other.step = { one.step with memory := other.step.memory, opcode := other.step.opcode } ∧
    (one.pc.toNat ≤ 0xFFE → other.step.opcode = one.step.opcode) ∧
    ∀ place : Fin 4096,
      (one.WritesByte place → cellAt other.step.memory place = cellAt one.step.memory place) ∧
      (¬ one.WritesByte place →
        cellAt one.step.memory place = cellAt one.memory place ∧
          cellAt other.step.memory place = cellAt other.memory place) := by
  obtain ⟨memory, rfl⟩ : ∃ memory, other = one.withMemory memory := ⟨_, alike⟩
  have sound := reached.sound
  have stepped := State.Sound.step_withMemory_of_running same sound healthy running
  have memoryOther : (one.withMemory memory).step.memory =
      memory.write one.index.toNat one.stepBytes := by
    rw [stepped]
  have memoryOne := sound.step_memory
  refine ⟨by rw [stepped], by rw [memoryOther]; exact stepped, fun inMemory => ?_, fun place => ?_⟩
  · rw [State.Sound.step_withMemory same sound healthy running inMemory]
    rfl
  · rw [State.writesByte_iff healthy running, memoryOther, memoryOne]
    refine ⟨fun written => cellAt_write_of_inside written.1 written.2 _, fun unwritten => ?_⟩
    have outside : place.val < one.index.toNat ∨
        one.index.toNat + one.stepBytes.length ≤ place.val := by
      omega
    exact ⟨cellAt_write_of_outside outside, cellAt_write_of_outside outside⟩

/-- A machine about to load two registers from the last bytes of memory but one. -/
def Machine.loadingLast : Machine :=
  (Machine.fresh ⟨0, 0⟩ false).after [.load #[0xAF, 0xFD, 0xF1, 0x65], .step]

/-- The load goes through the last byte of memory, but what that byte is makes no difference. -/
theorem reached_steps_agree_lastByte :
    let one := Machine.loadingLast.state
    let other := { one with memory := one.memory.write 0xFFF [0xA5] }
    one.Reachable ∧ one.fault = Fault.healthy ∧ one.mode = Mode.running ∧
    (∀ address, one.Reads address → other.byteAt address = one.byteAt address) ∧
    one.Reads 0xFFE ∧ one.pc.toNat ≤ 0xFFE ∧ ¬ one.WritesByte (0xFFF : Fin 4096) ∧
    other.step.registers = one.step.registers ∧ other.step.opcode = one.step.opcode ∧
    cellAt one.step.memory 0xFFF = cellAt one.memory 0xFFF ∧
    cellAt other.step.memory 0xFFF = cellAt other.memory 0xFFF := by
  intro one other
  have reached : one.Reachable := ⟨_, _, _, rfl⟩
  obtain ⟨healthy, running, address, start, word, register⟩ :
      one.fault = Fault.healthy ∧ one.mode = Mode.running ∧ one.pc.toNat = 0x202 ∧
      one.index.toNat = 0xFFD ∧ one.word = 0xF165 ∧ (Word.x one.operands).val = 1 := by
    decide +kernel
  have same : ∀ place, one.Reads place → other.byteAt place = one.byteAt place := by
    rintro place ⟨-, -, reads⟩
    have apart : 0xFFF ≠ place := by
      rcases reads with here | here | ⟨isDraw, -⟩ | ⟨-, -, here⟩
      · omega
      · omega
      · rw [word] at isDraw
        exact absurd isDraw (by decide)
      · omega
    simp [other, State.byteAt, Memory.write, Vector.getElem?_setIfInBounds_ne, apart]
  have inMemory : one.pc.toNat ≤ 0xFFE := by omega
  have reads : one.Reads 0xFFE := by
    refine ⟨inMemory, by decide, .inr (.inr (.inr ⟨?_, by omega, by omega⟩))⟩
    rw [word]
    decide
  have unwritten : ¬ one.WritesByte (0xFFF : Fin 4096) := by
    rintro ⟨-, -, ⟨isDecimal, -⟩ | ⟨isStore, -⟩⟩
    · rw [word] at isDecimal
      exact absurd isDecimal (by decide)
    · rw [word] at isStore
      exact absurd isStore (by decide)
  have alike : other = { one with memory := other.memory } := rfl
  obtain ⟨-, stepped, words, bytes⟩ := reached_steps_agree reached healthy running alike same
  obtain ⟨keptOne, keptOther⟩ := (bytes 0xFFF).2 unwritten
  have registers : other.step.registers = one.step.registers := by rw [stepped]
  exact ⟨reached, healthy, running, same, reads, inMemory, unwritten, registers, words inMemory,
    keptOne, keptOther⟩

end Chip8
