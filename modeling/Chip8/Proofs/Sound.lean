import Chip8.Proofs.CallStack
import Chip8.Proofs.Host
import Chip8.Proofs.Pattern

/-!
# What holds of every state a machine reaches

`State.Sound` bounds the registers that hold addresses, ties a pending wait and the reports to the
word that caused them, and asks for a sound call stack. The parts need one another: a return is
bounded because calls are saved at addresses of memory, and those are in memory because a fetch past
the end is discarded.

Results:
1. `Sound.stepWith`: a step keeps a state sound, with any choice of what lies past the arrays.
2. `Sound.obey`, `sound_after`: so does whatever a host asks, and every sequence of it.
3. `reached_sound_exact`: every state that a machine reaches is sound, and none of the sums of a
   step wraps on it.
4. `reached_push_masked`: the mask of a push can take something away where a step is discarded.
-/

namespace Chip8

namespace State

/-- The invariant of a machine's states. -/
structure Sound (state : State) : Prop where
  pc_le : state.pc.toNat ≤ 0x10FE
  index_le : state.index.toNat ≤ 0xFFF
  stack : state.stack.Sound
  mode : state.mode = Mode.running ∨ state.mode = Mode.awaitingKey
  waitRegister_le : state.waitRegister.toNat ≤ 15
  fault_le : state.fault.toNat ≤ 5
  /-- A wait is pending only for the word fetched last, and in the register that it names. -/
  awaiting : state.mode = Mode.awaitingKey →
    state.fault = Fault.healthy ∧ state.opcode &&& 0xF0FF = 0xF00A ∧
      state.waitRegister.toUInt16 = (state.opcode >>> 8) &&& 0xF
  halted : state.fault ≠ Fault.healthy → state.unknownOpcode = false ∧ state.tone = false
  unknown : state.unknownOpcode = true → classify state.opcode.toUInt32.toInt32 = .unknown
  tone : state.tone = true → state.soundTimer = 0

theorem sound_initial (random : RandomKey) : (initial random).Sound where
  pc_le := by simp [initial, programStart]
  index_le := by simp [initial]
  stack := CallStack.sound_empty
  mode := .inl rfl
  waitRegister_le := by simp [initial]
  fault_le := by simp [initial, Fault.healthy]
  awaiting waiting := absurd waiting (by decide : Mode.running ≠ Mode.awaitingKey)
  halted faulty := absurd rfl faulty
  unknown reported := absurd reported Bool.false_ne_true
  tone reported := absurd reported Bool.false_ne_true

variable {state : State} {edge : Edge}

theorem Sound.clearReports (sound : state.Sound) : state.clearReports.Sound :=
  { sound with
    halted := fun _ => ⟨rfl, rfl⟩
    unknown := fun reported => absurd reported Bool.false_ne_true
    tone := fun reported => absurd reported Bool.false_ne_true }

/-! ## The fields after a kept instruction -/

/-- The program counter of a sound state is too small for the check of the fetch to wrap. -/
theorem Sound.pastMemory_iff (sound : state.Sound) :
    0xFFF < state.pc + 1 ↔ 0xFFE < state.pc.toNat := by
  have bound := sound.pc_le
  simp only [UInt16.lt_iff_toNat_lt, UInt16.toNat_add, UInt16.reduceToNat]
  omega

theorem Sound.pc_le_of_passed (sound : state.Sound) (passed : state.stepHazard? edge = none) :
    state.pc.toNat ≤ 0xFFE := by
  rcases Nat.lt_or_ge 0xFFE state.pc.toNat with past | inMemory
  · rw [stepHazard?, if_pos (sound.pastMemory_iff.mpr past)] at passed
    cases passed
  · exact inMemory

theorem hazard?_of_passed (passed : state.stepHazard? edge = none) :
    state.hazard? edge (state.fetchedInstruction edge) = none := by
  unfold stepHazard? at passed
  split at passed
  · cases passed
  · exact passed

theorem address_fetched_le {address : UInt16}
    (carried : (state.fetchedInstruction edge).address? = some address) :
    address.toNat ≤ 0xFFF :=
  address_decode_le carried

theorem Sound.executedWith_pc_le (sound : state.Sound) (passed : state.stepHazard? edge = none) :
    (state.executedWith edge).pc.toNat ≤ 0x10FE := by
  have inMemory := sound.pc_le_of_passed passed
  rw [executedWith_pc]
  split
  · have bound := sound.stack.top_le edge
    simp only [UInt16.toNat_add, UInt16.reduceToNat]
    omega
  · next target read =>
    have bound : target.toNat ≤ 0xFFF := address_fetched_le (by rw [read]; rfl)
    omega
  · next target read =>
    have bound : target.toNat ≤ 0xFFF := address_fetched_le (by rw [read]; rfl)
    omega
  · next base read =>
    have bound : base.toNat ≤ 0xFFF := address_fetched_le (by rw [read]; rfl)
    -- The farthest a program counter gets: the last address and the largest byte.
    have byte := (state.register Registers.offset).toNat_lt
    simp only [UInt16.toNat_add, UInt8.toNat_toUInt16]
    omega
  · split <;>
    · simp only [UInt16.toNat_add, UInt16.reduceToNat]
      omega

theorem Sound.executedWith_index_le (sound : state.Sound) :
    (state.executedWith edge).index.toNat ≤ 0xFFF := by
  rw [executedWith_index]
  split
  · next address read => exact address_fetched_le (by rw [read]; rfl)
  · simp only [UInt16.toNat_ofNat']
    omega
  · next x read =>
    have byte := (state.register x).toNat_lt
    simp only [UInt16.toNat_ofNat', fontStart, glyphSize]
    rw [Nat.mod_eq_of_lt (by omega)]
    omega
  · exact sound.index_le

theorem pointer_lt_of_call (passed : state.stepHazard? edge = none) {target : UInt16}
    (read : state.fetchedInstruction edge = .call target) : state.stack.pointer.toNat < 16 := by
  have hazard := hazard?_of_passed passed
  rw [read, hazard?, ite_eq_right_iff] at hazard
  rw [← Nat.not_le, ← CallStack.isFull_eq_true_iff]
  intro full
  cases hazard full

theorem Sound.executedWith_stack (sound : state.Sound) (passed : state.stepHazard? edge = none) :
    (state.executedWith edge).stack.Sound := by
  rw [State.executedWith_stack]
  split
  · exact sound.stack.pop
  · next target read =>
    exact sound.stack.push (pointer_lt_of_call passed read) (sound.pc_le_of_passed passed)
  · exact sound.stack

/-- An instruction that leaves the machine waiting is a wait with no key down. -/
theorem awaitKey_of_executedWith_mode (running : state.mode = Mode.running)
    (waiting : (state.executedWith edge).mode = Mode.awaitingKey) :
    ∃ x, state.fetchedInstruction edge = .awaitKey x ∧ state.keypad.lowest? = none := by
  rw [executedWith_mode] at waiting
  split at waiting
  · next x read =>
    split at waiting
    · next idle => exact ⟨x, read, idle⟩
    · rw [running] at waiting
      exact absurd waiting (by decide)
  · rw [running] at waiting
    exact absurd waiting (by decide)

theorem Sound.executedWith_waitRegister_le (sound : state.Sound) :
    (state.executedWith edge).waitRegister.toNat ≤ 15 := by
  rw [executedWith_waitRegister]
  split
  · next x read =>
    split
    · rw [UInt8.toNat_ofNat']
      omega
    · exact sound.waitRegister_le
  · exact sound.waitRegister_le

theorem classify_of_executedWith_unknownOpcode (quiet : state.unknownOpcode = false)
    (reported : (state.executedWith edge).unknownOpcode = true) :
    classify (state.fetchedWord edge).toUInt32.toInt32 = .unknown := by
  rw [executedWith_unknownOpcode] at reported
  split at reported
  · next word read =>
    rw [← Instruction.op_decode]
    exact congrArg Instruction.op read
  · rw [quiet] at reported
    cases reported

theorem soundTimer_of_tick_tone (reported : state.tick.tone = true) :
    state.tick.soundTimer = 0 := by
  simp only [tick, beq_iff_eq] at reported
  simp [tick, reported]

/-! ## Preservation -/

/-- A step that passes every check keeps a state sound. -/
theorem Sound.kept (sound : state.Sound) (healthy : state.fault = Fault.healthy)
    (running : state.mode = Mode.running) (quietWord : state.unknownOpcode = false)
    (quietTone : state.tone = false) (passed : state.stepHazard? edge = none) :
    (state.executedWith edge).tickIfRunning.Sound := by
  have healthyNext : (state.executedWith edge).fault = Fault.healthy := by
    rw [executedWith_fault _ _ healthy, passed, Fault.codeOf_none]
  rw [tickIfRunning_eq]
  exact {
    pc_le := sound.executedWith_pc_le passed
    index_le := sound.executedWith_index_le
    stack := sound.executedWith_stack passed
    mode := by
      simp only [executedWith_mode, running]
      split
      · split
        · exact .inr rfl
        · exact .inl rfl
      · exact .inl rfl
    waitRegister_le := sound.executedWith_waitRegister_le
    fault_le := by simp [healthyNext, Fault.healthy]
    -- Only a wait with no key down leaves the machine waiting, and its word names the register.
    awaiting := fun waiting => by
      obtain ⟨x, read, idle⟩ := awaitKey_of_executedWith_mode running waiting
      have register : (state.executedWith edge).waitRegister = UInt8.ofNat x := by
        rw [executedWith_waitRegister, read]
        exact if_pos idle
      have word := ofWord_eq_awaitKey read
      refine ⟨healthyNext, ?_, ?_⟩
      · rw [executedWith_opcode]
        exact word.1
      · rw [executedWith_opcode, register]
        exact word.2
    halted := fun faulty => absurd healthyNext faulty
    unknown := fun reported => by
      rw [executedWith_opcode]
      exact classify_of_executedWith_unknownOpcode quietWord reported
    tone := fun reported => by
      simp only [executedWith_tone, quietTone] at reported ⊢
      split at reported
      · next stillRunning =>
        rw [if_pos stillRunning]
        exact soundTimer_of_tick_tone reported
      · cases reported }

/-- The end of a wait, and the wait that goes on, keep a state sound. -/
theorem Sound.pollKeypad (sound : state.Sound) (healthy : state.fault = Fault.healthy)
    (quietWord : state.unknownOpcode = false) : state.pollKeypad.Sound := by
  rw [pollKeypad_eq]
  split
  · exact { sound with
      mode := .inl rfl
      awaiting := fun waiting => absurd waiting (by decide : Mode.running ≠ Mode.awaitingKey)
      halted := fun faulty => absurd healthy faulty
      unknown := fun reported => by
        simp only [tick, quietWord] at reported
        cases reported
      tone := soundTimer_of_tick_tone }
  · exact sound

theorem code_le (fault : Fault) : fault.code.toNat ≤ 5 := by
  cases fault <;> decide

/-- A step keeps a state sound, whatever lies past the arrays. -/
theorem Sound.stepWith (sound : state.Sound) (edge : Edge) : (state.stepWith edge).Sound := by
  by_cases healthy : state.fault = Fault.healthy
  · by_cases running : state.mode = Mode.running
    · cases found : state.stepHazard? edge with
      | none =>
        rw [stepWith_of_no_hazard _ _ healthy running found]
        exact sound.clearReports.kept healthy running rfl rfl found
      | some fault =>
        rw [stepWith_of_hazard _ _ healthy running found]
        exact { sound.clearReports with
          fault_le := code_le fault
          awaiting := fun waiting => by
            simp only [State.clearReports, running] at waiting
            cases waiting
          halted := fun _ => ⟨rfl, rfl⟩
          unknown := fun reported => absurd reported Bool.false_ne_true }
    · rw [stepWith_of_waiting _ _ healthy running]
      exact sound.clearReports.pollKeypad healthy rfl
  · rw [stepWith_of_fault _ _ healthy]
    exact sound.clearReports

/-! ## Exact sums -/

/-- The sums of a step in eight and sixteen bits are those of whole numbers, and the mask of a push takes
nothing away from an address of memory, nor in a step that is kept. -/
structure Exact (state : State) : Prop where
  secondByte : (state.pc + 1).toNat = state.pc.toNat + 1
  fetched : state.fetch.state.pc.toNat = state.pc.toNat + 2
  skipped : (state.fetch.state.pc + 2).toNat = state.pc.toNat + 4
  called : ((state.fetch.state.pc - 2).toNat : Int) = state.fetch.state.pc.toNat - 2
  decimal : (state.index + 2).toNat = state.index.toNat + 2
  pushed : (state.stack.pointer + 1).toNat = state.stack.pointer.toNat + 1
  returned :
    (state.stack.top Edge.last + 2).toNat = (state.stack.top Edge.last).toNat + 2
  masked : state.pc.toNat ≤ 0xFFF →
    state.stack.push (state.fetch.state.pc - 2) = state.stack.pushWhole (state.fetch.state.pc - 2)
  /-- A word past the end of memory may read as a call, and there the mask takes something away; but
  that step is discarded with its push. -/
  keptWhole : state.fault = Fault.healthy → state.mode = Mode.running →
    state.step.fault = Fault.healthy →
    state.stack.push (state.fetch.state.pc - 2) = state.stack.pushWhole (state.fetch.state.pc - 2)
  /-- What a step saves on the stack is the whole address of the call. -/
  saved :
    state.step.stack = state.stack ∨ state.step.stack = state.stack.pop ∨
      (state.stack.pointer.toNat < 16 ∧ state.step.stack = state.stack.pushWhole state.pc)

/-- A running step that records no fault is at an address with a whole word. -/
theorem Sound.pc_le_of_kept (sound : state.Sound) (healthy : state.fault = Fault.healthy)
    (running : state.mode = Mode.running) (kept : state.step.fault = Fault.healthy) :
    state.pc.toNat ≤ 0xFFE := by
  rw [step_fault_of_running healthy running] at kept
  exact sound.pc_le_of_passed ((Fault.codeOf_eq_healthy_iff _).mp kept)

/-- A step leaves the stack as it is, pops it, or saves the address of the word that it fetched. -/
theorem Sound.stepWith_stack (sound : state.Sound) (edge : Edge) :
    (state.stepWith edge).stack = state.stack ∨
      (state.stepWith edge).stack = state.stack.pop ∨
      (state.stack.pointer.toNat < 16 ∧
        (state.stepWith edge).stack = state.stack.pushWhole state.pc) := by
  by_cases healthy : state.fault = Fault.healthy
  · by_cases running : state.mode = Mode.running
    · cases found : state.stepHazard? edge with
      | none =>
        have inMemory := sound.pc_le_of_passed found
        rw [stepWith_of_no_hazard _ _ healthy running found, tickIfRunning_eq]
        simp only [State.executedWith_stack]
        split
        · exact .inr (.inl rfl)
        · next target read =>
          refine .inr (.inr ⟨pointer_lt_of_call found read, ?_⟩)
          exact CallStack.push_eq_pushWhole (by exact Nat.le_succ_of_le inMemory)
        · exact .inl rfl
      | some fault =>
        rw [stepWith_of_hazard _ _ healthy running found]
        exact .inl rfl
    · rw [stepWith_of_waiting _ _ healthy running, pollKeypad_eq]
      split <;> exact .inl rfl
  · rw [stepWith_of_fault _ _ healthy]
    exact .inl rfl

theorem Sound.exact (sound : state.Sound) : state.Exact := by
  have pcBound := sound.pc_le
  have indexBound := sound.index_le
  have pointerBound := sound.stack.pointer_le
  have topBound := sound.stack.top_le Edge.last
  have fetchPc : state.fetch.state.pc = state.pc + 2 := rfl
  have behind : (state.pc + 2).toNat = state.pc.toNat + 2 :=
    toNat_add_of_lt (show _ + 2 < _ by omega)
  have back : state.fetch.state.pc - 2 = state.pc := UInt16.add_sub_cancel ..
  have masked : state.pc.toNat ≤ 0xFFF →
      state.stack.push (state.fetch.state.pc - 2) =
        state.stack.pushWhole (state.fetch.state.pc - 2) := fun inMemory => by
    rw [back]
    exact CallStack.push_eq_pushWhole inMemory
  exact {
    secondByte := toNat_add_of_lt (show _ + 1 < _ by omega)
    fetched := behind
    skipped := by
      rw [fetchPc, toNat_add_of_lt (show _ + 2 < _ by omega), behind]
      rfl
    called := by
      rw [back, fetchPc, behind]
      omega
    decimal := toNat_add_of_lt (show _ + 2 < _ by omega)
    pushed := by
      simp only [UInt8.toNat_add, UInt8.reduceToNat]
      omega
    returned := toNat_add_of_lt (show _ + 2 < _ by omega)
    masked := masked
    keptWhole := fun healthy running kept =>
      masked (Nat.le_succ_of_le (sound.pc_le_of_kept healthy running kept))
    saved := sound.stepWith_stack Edge.last }

end State

namespace Machine

variable {machine : Machine}

/-- Whatever a host asks, failed or not, keeps the state sound. -/
theorem Sound.obey (sound : machine.state.Sound) (command : Command) :
    (machine.obey command).machine.state.Sound := by
  rw [obey_state]
  cases command with
  | reset => exact State.sound_initial machine.random
  | step =>
    simp only
    split
    · exact sound
    · exact sound.stepWith Edge.last
  | load program =>
    simp only [load_state]
    exact { sound with }
  | keyDown key | keyUp key =>
    simp only [setKey_state]
    exact { sound with }
  | readDisplay => exact { sound with }
  | displayDirty | soundActive => exact sound

theorem sound_after (sound : machine.state.Sound) (commands : List Command) :
    (machine.after commands).state.Sound := by
  induction commands generalizing machine with
  | nil => exact sound
  | cons command rest ih => exact ih (Sound.obey sound command)

end Machine

/-- A state that some machine reaches from its construction by operations of its host. -/
def State.Reachable (state : State) : Prop :=
  ∃ random strict commands, ((Machine.fresh random strict).after commands).state = state

theorem State.Reachable.sound {state : State} (reached : state.Reachable) : state.Sound := by
  obtain ⟨random, strict, commands, rfl⟩ := reached
  have start : (Machine.fresh random strict).state.Sound := State.sound_initial random
  exact Machine.sound_after start commands

/-- Every state that a machine reaches from its construction, by any operations of its host, is
sound, and the sums of a step on it are exact: none wraps, and no step that is kept saves a masked
address. -/
theorem reached_sound_exact (random : RandomKey) (strict : Bool)
    (commands : List Machine.Command) :
    ((Machine.fresh random strict).after commands).state.Sound ∧
      ((Machine.fresh random strict).after commands).state.Exact := by
  have start : (Machine.fresh random strict).state.Sound := State.sound_initial random
  have sound := Machine.sound_after start commands
  exact ⟨sound, sound.exact⟩

/-- A machine that has stored the word of a call at the last address and then jumped past the end of
memory, where every read yields that last byte. -/
def Machine.callingPast : Machine :=
  (Machine.fresh ⟨0, 0⟩ false).after
    [.load #[0x60, 0x22, 0xAF, 0xFF, 0xF0, 0x55, 0x60, 0xFF, 0xBF, 0xFF], .step, .step, .step, .step,
      .step]

/-- Past the end of memory the mask of a push does take something away. The word that is read there is a
call; carried out, it saves `0x0FE` in place of `0x10FE`. The step is discarded, and the stack stays
as it was. -/
theorem reached_push_masked :
    let state := Machine.callingPast.state
    let executed := state.fetch.state.execute state.fetch.word.toUInt32.toInt32
    state.Reachable ∧ state.fault = Fault.healthy ∧ state.mode = Mode.running ∧
    state.fetch.state.pc - 2 = 0x10FE ∧ state.fetch.word = 0x2222 ∧
    executed.stack = state.stack.push 0x10FE ∧ cellAt executed.stack.saved 0 = 0x0FE ∧
    state.stack.push 0x10FE ≠ state.stack.pushWhole 0x10FE ∧
    state.step.fault = Fault.memory.code ∧ state.step.stack = state.stack := by
  intro state executed
  have reached : state.Reachable := ⟨_, _, _, rfl⟩
  exact ⟨reached, by decide +kernel⟩

end Chip8
