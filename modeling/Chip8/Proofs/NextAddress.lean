import Chip8.Proofs.Alignment

/-!
# Where a word leads

The program counter after a step is put together from the advance of the fetch, the skips, the
targets of jumps and calls, and the address that a return takes, all of it in sixteen bits.
`State.nextAddress` says where a word leads in whole numbers, by the digits of the word. On the
states that a machine reaches no sum wraps, so that every step that is kept goes to this address.

Results:
1. `skips_iff`, `nextAddress_eq`: when a word skips, and where it leads, by its kind.
2. `Sound.toNat_step_pc`: the program counter after a step that is kept.
3. `step_pc_of_not_running`: no step of a machine that waits moves it.
4. `Word.Opposite.skips_one`: of two opposite skips one is taken.
5. `reached_next_address`: the law of the program counter.
-/

namespace Chip8

namespace State

/-! ## The address of the next word -/

/-- The word at the program counter is a skip whose condition holds. -/
def SkipHolds (state : State) : Prop :=
  (state.word &&& 0xF000 = 0x3000 ∧ state.vx = (Word.nn state.operands).toNat) ∨
  (state.word &&& 0xF000 = 0x4000 ∧ state.vx ≠ (Word.nn state.operands).toNat) ∨
  (state.word &&& 0xF00F = 0x5000 ∧ state.vx = state.vy) ∨
  (state.word &&& 0xF00F = 0x9000 ∧ state.vx ≠ state.vy) ∨
  (state.word &&& 0xF0FF = 0xE09E ∧ state.keypad[state.vx]? = some true) ∨
  (state.word &&& 0xF0FF = 0xE0A1 ∧ state.keypad[state.vx]? = some false)

instance (state : State) : Decidable state.SkipHolds :=
  inferInstanceAs (Decidable (_ ∨ _))

/-- Where the word at the program counter leads, in whole numbers. -/
def nextAddress (state : State) : Nat :=
  if state.word &&& 0xF000 = 0x1000 ∨ state.word &&& 0xF000 = 0x2000 then
    (Word.nnn state.operands).toNat
  else if state.word &&& 0xF000 = 0xB000 then
    (Word.nnn state.operands).toNat + (state.register Registers.offset).toNat
  else if state.word = 0x00EE then
    (state.stack.saved[state.stack.pointer.toNat - 1]?.getD 0).toNat + 2
  else if state.SkipHolds then state.pc.toNat + 4
  else state.pc.toNat + 2

variable {state : State}

/-! ## Kinds of the words that move the program counter -/

theorem word_jump_iff : state.word &&& 0xF000 = 0x1000 ↔ classify state.operands = .jump :=
  (op_word_iff ⟨0xF000, 0x1000, .jump⟩ (by decide)).symm

theorem word_jumpOffset_iff :
    state.word &&& 0xF000 = 0xB000 ↔ classify state.operands = .jumpOffset :=
  (op_word_iff ⟨0xF000, 0xB000, .jumpOffset⟩ (by decide)).symm

theorem word_skipEqByte_iff :
    state.word &&& 0xF000 = 0x3000 ↔ classify state.operands = .skipEqByte :=
  (op_word_iff ⟨0xF000, 0x3000, .skipEqByte⟩ (by decide)).symm

theorem word_skipNeByte_iff :
    state.word &&& 0xF000 = 0x4000 ↔ classify state.operands = .skipNeByte :=
  (op_word_iff ⟨0xF000, 0x4000, .skipNeByte⟩ (by decide)).symm

theorem word_skipEqRegister_iff :
    state.word &&& 0xF00F = 0x5000 ↔ classify state.operands = .skipEqRegister :=
  (op_word_iff ⟨0xF00F, 0x5000, .skipEqRegister⟩ (by decide)).symm

theorem word_skipNeRegister_iff :
    state.word &&& 0xF00F = 0x9000 ↔ classify state.operands = .skipNeRegister :=
  (op_word_iff ⟨0xF00F, 0x9000, .skipNeRegister⟩ (by decide)).symm

/-! ## Skips -/

/-- Whether a word skips, by its kind. -/
theorem skips_decode (edge : Edge) (word : Int32) :
    state.skips edge (Instruction.decode word) =
      match classify word with
      | .skipEqByte => state.register (Word.x word) == Word.nn word
      | .skipNeByte => state.register (Word.x word) != Word.nn word
      | .skipEqRegister => state.register (Word.x word) == state.register (Word.y word)
      | .skipNeRegister => state.register (Word.x word) != state.register (Word.y word)
      | .skipKeyDown =>
        readCell state.keypad edge.keypad (state.register (Word.x word)).toNat == true
      | .skipKeyUp =>
        readCell state.keypad edge.keypad (state.register (Word.x word)).toNat == false
      | _ => false := by
  unfold Instruction.decode
  cases classify word <;> rfl

theorem getElem?_keypad {key : Nat} (isKey : key < 16) (edge : Edge) :
    state.keypad[key]? = some (readCell state.keypad edge.keypad key) := by
  rw [readCell_of_lt isKey, Vector.getElem?_eq_getElem isKey]

/-- A skip on a key that passes its check names a key. -/
theorem vx_lt_of_passed {edge : Edge}
    (passed : state.hazard? edge (Instruction.ofWord state.word) = none)
    (asksKey : classify state.operands = .skipKeyDown ∨ classify state.operands = .skipKeyUp) :
    state.vx < 16 := by
  rw [hazard?_ofWord] at passed
  rcases asksKey with kind | kind
  all_goals
    simp only [kind, ite_eq_right_iff, reduceCtorEq, imp_false, key_iff] at passed
    exact Nat.lt_succ_of_le (Nat.not_lt.mp passed)

section

attribute [local simp] word_ret_iff word_call_iff word_jump_iff word_jumpOffset_iff
  word_skipEqByte_iff word_skipNeByte_iff word_skipEqRegister_iff word_skipNeRegister_iff
  word_skipKeyDown_iff word_skipKeyUp_iff

/-- A word that passes its check skips exactly if its condition holds. -/
theorem skips_iff {edge : Edge}
    (passed : state.hazard? edge (Instruction.ofWord state.word) = none) :
    state.skips edge (Instruction.ofWord state.word) = true ↔ state.SkipHolds := by
  have decoded : state.skips edge (Instruction.ofWord state.word) = _ :=
    skips_decode edge state.operands
  rw [decoded, SkipHolds]
  split
  · next kind => simp [kind, vx, UInt8.toNat_inj]
  · next kind => simp [kind, vx, UInt8.toNat_inj]
  · next kind => simp [kind, vx, vy, UInt8.toNat_inj]
  · next kind => simp [kind, vx, vy, UInt8.toNat_inj]
  · next kind =>
    rw [getElem?_keypad (vx_lt_of_passed passed (.inl kind)) edge]
    simp [kind, vx]
  · next kind =>
    rw [getElem?_keypad (vx_lt_of_passed passed (.inr kind)) edge]
    simp [kind, vx]
  · simp_all

/-- Where a word leads, by its kind. -/
theorem nextAddress_eq :
    state.nextAddress =
      match classify state.operands with
      | .ret => (state.stack.saved[state.stack.pointer.toNat - 1]?.getD 0).toNat + 2
      | .jump | .call => (Word.nnn state.operands).toNat
      | .jumpOffset =>
        (Word.nnn state.operands).toNat + (state.register Registers.offset).toNat
      | _ => if state.SkipHolds then state.pc.toNat + 4 else state.pc.toNat + 2 := by
  unfold nextAddress
  simp only [word_jump_iff, word_call_iff, word_jumpOffset_iff, word_ret_iff]
  cases classify state.operands <;> simp

end

/-! ## The program counter after a step -/

/-- The program counter after a step that is kept, by the kind of its word. -/
theorem Sound.step_pc_of_kept (sound : state.Sound)
    (committed : state.committed? = some (Instruction.ofWord state.word)) :
    state.step.pc =
      match classify state.operands with
      | .ret => state.stack.top Edge.last + 2
      | .jump | .call => Word.nnn state.operands
      | .jumpOffset => Word.nnn state.operands + (state.register Registers.offset).toUInt16
      | _ =>
        if state.skips Edge.last (Instruction.ofWord state.word) then state.pc + 4
        else state.pc + 2 := by
  rw [sound.step_pc, committed, Instruction.ofWord, Instruction.decode, ← operands]
  cases classify state.operands <;> rfl

/-- The entry that a return takes is the one below the pointer. -/
theorem Sound.top_eq_saved (sound : state.Sound) :
    state.stack.top Edge.last = state.stack.saved[state.stack.pointer.toNat - 1]?.getD 0 := by
  have inside := sound.stack.popped_lt
  rw [sound.stack.top_eq, cellAt, ← CallStack.toNat_popped, Vector.getElem?_eq_getElem inside]
  rfl

/-- No sum of a step that is kept wraps. -/
theorem Sound.toNat_step_pc (sound : state.Sound)
    (committed : state.committed? = some (Instruction.ofWord state.word)) :
    state.step.pc.toNat = state.nextAddress := by
  have inMemory := sound.pc_le_of_committed committed
  have passed := hazard?_of_passed (passed_of_committed committed)
  rw [sound.read_of_committed committed] at passed
  rw [sound.step_pc_of_kept committed, nextAddress_eq]
  split
  · have bound := sound.stack.top_le Edge.last
    rw [← sound.top_eq_saved]
    exact toNat_add_of_lt (show _ + 2 < _ by omega)
  · rfl
  · rfl
  · have digits : (Word.nnn state.operands).toNat ≤ 0xFFF := by
      simp only [Word.nnn, UInt16.toNat_ofNat']
      omega
    have byte := (state.register Registers.offset).toNat_lt
    exact toNat_add_of_lt (show _ + (state.register Registers.offset).toNat < _ by omega)
  · simp only [skips_iff passed]
    split
    · exact toNat_add_of_lt (show _ + 4 < _ by omega)
    · exact toNat_add_of_lt (show _ + 2 < _ by omega)

/-- No step of a machine that waits for a key moves the program counter. -/
theorem step_pc_of_not_running (waiting : state.mode ≠ Mode.running) :
    state.step.pc = state.pc := by
  by_cases healthy : state.fault = Fault.healthy
  · rw [step, stepWith_of_waiting _ _ healthy waiting, pollKeypad_eq]
    split <;> rfl
  · rw [step, stepWith_of_fault _ _ healthy]
    rfl

end State

/-! ## Opposite skips -/

/-- Two words for skips with the same operands and opposite conditions. -/
inductive Word.Opposite (one other : Int32) : Prop where
  | byte (x : Word.x one = Word.x other) (byte : Word.nn one = Word.nn other)
      (equal : one.toUInt32 &&& 0xF000 = 0x3000) (different : other.toUInt32 &&& 0xF000 = 0x4000)
  | register (x : Word.x one = Word.x other) (y : Word.y one = Word.y other)
      (equal : one.toUInt32 &&& 0xF00F = 0x5000) (different : other.toUInt32 &&& 0xF00F = 0x9000)
  | key (x : Word.x one = Word.x other)
      (down : one.toUInt32 &&& 0xF0FF = 0xE09E) (up : other.toUInt32 &&& 0xF0FF = 0xE0A1)

/-- The kinds of the skips. -/
def skipKinds : List Op :=
  [.skipEqByte, .skipNeByte, .skipEqRegister, .skipNeRegister, .skipKeyDown, .skipKeyUp]

/-- A skip moves the program counter behind the next word, or not at all. -/
theorem State.execute_pc_of_skip {state : State} {word : Int32} (skip : classify word ∈ skipKinds) :
    (state.execute word).pc =
      if state.skips Edge.last (Instruction.decode word) then state.pc + 2 else state.pc := by
  have result : (state.execute word).pc = _ :=
    State.performWith_pc Edge.last state (Instruction.decode word)
  rw [← Instruction.op_decode] at skip
  rw [result]
  split <;> simp_all [Instruction.op, skipKinds]

/-- The conditions of opposite skips exclude each other and leave nothing out. -/
theorem Word.Opposite.skips {one other : Int32} (opposite : Word.Opposite one other)
    (state : State) (edge : Edge) :
    classify one ∈ skipKinds ∧ classify other ∈ skipKinds ∧
      state.skips edge (Instruction.decode other) =
        !state.skips edge (Instruction.decode one) := by
  rw [State.skips_decode, State.skips_decode]
  cases opposite with
  | byte x byte equal different =>
    rw [classify_of_digits ⟨0xF000, 0x3000, .skipEqByte⟩ (by decide) equal,
      classify_of_digits ⟨0xF000, 0x4000, .skipNeByte⟩ (by decide) different]
    exact ⟨by decide, by decide, by simp only [x, byte, bne]⟩
  | register x y equal different =>
    rw [classify_of_digits ⟨0xF00F, 0x5000, .skipEqRegister⟩ (by decide) equal,
      classify_of_digits ⟨0xF00F, 0x9000, .skipNeRegister⟩ (by decide) different]
    exact ⟨by decide, by decide, by simp only [x, y, bne]⟩
  | key x down up =>
    rw [classify_of_digits ⟨0xF0FF, 0xE09E, .skipKeyDown⟩ (by decide) down,
      classify_of_digits ⟨0xF0FF, 0xE0A1, .skipKeyUp⟩ (by decide) up]
    refine ⟨by decide, by decide, ?_⟩
    simp only [x]
    cases readCell state.keypad edge.keypad (state.register (Word.x other)).toNat <;> rfl

/-- Of two opposite skips exactly one is taken, on every state. -/
theorem Word.Opposite.skips_one {one other : Int32} (opposite : Word.Opposite one other)
    (state : State) :
    ((state.execute one).pc = state.pc + 2 ∧ (state.execute other).pc = state.pc) ∨
    ((state.execute one).pc = state.pc ∧ (state.execute other).pc = state.pc + 2) := by
  obtain ⟨skipOne, skipOther, negated⟩ := opposite.skips state Edge.last
  rw [State.execute_pc_of_skip skipOne, State.execute_pc_of_skip skipOther, negated]
  cases state.skips Edge.last (Instruction.decode one) with
  | true => exact .inl ⟨rfl, rfl⟩
  | false => exact .inr ⟨rfl, rfl⟩

/-- The law of the program counter. A step that is kept, of any machine that runs, moves the program
counter to where the word there leads, with every sum in whole numbers; the word lies in memory, and
if it is a return there is an open call. A step of a machine that waits for a key leaves the program
counter. And of two skips with the same operands and opposite conditions, carried out on any state,
exactly one is taken. -/
theorem reached_next_address :
    (∀ state : State, state.Reachable →
      state.fault = Fault.healthy → state.mode = Mode.running →
      state.step.fault = Fault.healthy →
      state.step.pc.toNat = state.nextAddress ∧ state.pc.toNat ≤ 0xFFE ∧
      (state.word = 0x00EE → 0 < state.stack.pointer.toNat)) ∧
    (∀ state : State, state.mode = Mode.awaitingKey → state.step.pc = state.pc) ∧
    (∀ (state : State) (one other : Int32), Word.Opposite one other →
      ((state.execute one).pc = state.pc + 2 ∧ (state.execute other).pc = state.pc) ∨
      ((state.execute one).pc = state.pc ∧ (state.execute other).pc = state.pc + 2)) := by
  refine ⟨fun state reached healthy running kept => ?_, fun state waiting => ?_,
    fun state one other opposite => opposite.skips_one state⟩
  · have sound := reached.sound
    have committed : state.committed? = some (Instruction.ofWord state.word) :=
      State.committed?_eq_some_iff.mpr ⟨⟨healthy, running, kept⟩, rfl⟩
    refine ⟨sound.toNat_step_pc committed, sound.pc_le_of_committed committed, fun isRet => ?_⟩
    refine sound.open_of_ret ?_
    rw [committed, isRet]
    decide
  · refine State.step_pc_of_not_running ?_
    rw [waiting]
    decide

/-- A machine about to jump past the end of memory. -/
def Machine.jumpingPast : Machine :=
  (Machine.fresh ⟨0, 0⟩ false).after [.load #[0x60, 0xFF, 0xBF, 0xFF], .step]

/-- A machine about to skip for a key that is down. -/
def Machine.skippingKey : Machine :=
  (Machine.fresh ⟨0, 0⟩ false).after [.load #[0x65, 0x0A, 0xE5, 0x9E], .keyDown 0xA, .step]

/-- The sum of a jump is kept as it is; a skip is taken for its key; a wait stays where it is, also
with the key down that ends it. -/
theorem reached_next_address_jumpingPast :
    let jumping := Machine.jumpingPast.state
    let skipping := Machine.skippingKey.state
    let waiting := (Machine.waiting.obey (.keyDown 3)).machine.state
    jumping.Reachable ∧ jumping.fault = Fault.healthy ∧ jumping.mode = Mode.running ∧
    jumping.step.fault = Fault.healthy ∧ jumping.step.pc.toNat = 0x10FE ∧
    skipping.Reachable ∧ skipping.fault = Fault.healthy ∧ skipping.mode = Mode.running ∧
    skipping.step.fault = Fault.healthy ∧ skipping.SkipHolds ∧ skipping.step.pc.toNat = 0x206 ∧
    waiting.mode = Mode.awaitingKey ∧ waiting.step.mode = Mode.running ∧
    waiting.step.pc = waiting.pc ∧
    Word.Opposite 0xE59E 0xE5A1 ∧ (skipping.execute 0xE59E).pc = skipping.pc + 2 ∧
    (skipping.execute 0xE5A1).pc = skipping.pc := by
  intro jumping skipping waiting
  have reached : jumping.Reachable ∧ skipping.Reachable := ⟨⟨_, _, _, rfl⟩, ⟨_, _, _, rfl⟩⟩
  obtain ⟨healthy, running, kept, leads⟩ :
      jumping.fault = Fault.healthy ∧ jumping.mode = Mode.running ∧
      jumping.step.fault = Fault.healthy ∧ jumping.nextAddress = 0x10FE := by
    decide +kernel
  obtain ⟨healthyKey, runningKey, keptKey, holds, leadsKey⟩ :
      skipping.fault = Fault.healthy ∧ skipping.mode = Mode.running ∧
      skipping.step.fault = Fault.healthy ∧ skipping.SkipHolds ∧
      skipping.nextAddress = 0x206 := by
    decide +kernel
  obtain ⟨waits, resolves, taken⟩ :
      waiting.mode = Mode.awaitingKey ∧ waiting.step.mode = Mode.running ∧
      (skipping.execute 0xE59E).pc ≠ skipping.pc := by
    decide +kernel
  obtain ⟨law, still, opposites⟩ := reached_next_address
  have opposite : Word.Opposite 0xE59E 0xE5A1 := .key (by decide) (by decide) (by decide)
  have one := (opposites skipping _ _ opposite).resolve_right fun untaken => taken untaken.1
  exact ⟨reached.1, healthy, running, kept, (law _ reached.1 healthy running kept).1.trans leads,
    reached.2, healthyKey, runningKey, keptKey, holds,
    (law _ reached.2 healthyKey runningKey keptKey).1.trans leadsKey,
    waits, resolves, still _ waits, opposite, one⟩

end Chip8
