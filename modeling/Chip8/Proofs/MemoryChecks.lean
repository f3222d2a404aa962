import Chip8.Proofs.ReadFootprint

/-!
# The checks of addresses

A fetch and the instructions that go through memory check their last address. Those that add an operand
do so in whole numbers. The fetch and the digits of a number add a constant in sixteen bits, where the
sum of an address at the very top is a small one. So these two let pass what they should not: the fetch
at `0xFFFF`, and the digits from `0xFFFE` on. The sums of the others are right for every address.

Results:
1. `pastMemory_iff`, `indexPastMemory_iff`: what the sums in sixteen bits say.
2. `hazard?_eq_memory_iff`: the check of an instruction against the addresses that it accesses.
3. `stepWith_eq_of_memory`: a step that passes its checks does not depend on what lies past memory.
4. `memory_checks_exact`: the checks of fetch, instructions and steps, for every state.
-/

namespace Chip8

/-- A choice of what lies past memory; past the other arrays there is their last cell. -/
def Edge.beyondMemory (beyond : Memory → Nat → UInt8) : Edge :=
  { Edge.last with memory := beyond }

namespace State

variable {state : State} {edge : Edge}

/-! ## Sums in sixteen bits -/

theorem pastMemory_iff : 0xFFF < state.pc + 1 ↔ 0xFFE < state.pc.toNat ∧ state.pc.toNat ≠ 0xFFFF := by
  have bound := state.pc.toNat_lt
  simp only [UInt16.lt_iff_toNat_lt, UInt16.toNat_add, UInt16.reduceToNat]
  omega

theorem indexPastMemory_iff :
    0xFFF < state.index + 2 ↔ 0xFFF < state.index.toNat + 2 ∧ state.index.toNat < 0xFFFE := by
  have bound := state.index.toNat_lt
  simp only [UInt16.lt_iff_toNat_lt, UInt16.toNat_add, UInt16.reduceToNat]
  omega

/-! ## Accesses of an instruction -/

/-- An instruction depends on the byte at an address, or writes it. -/
def Accesses (state : State) (address : Nat) (instruction : Instruction) : Prop :=
  state.ReadsFor address instruction ∨
    (state.index.toNat ≤ address ∧
      address < state.index.toNat + (state.bytesWritten instruction).length)

/-- The check of the instruction adds in sixteen bits, and the sum is too large for them. -/
def CheckWraps (state : State) : Instruction → Prop
  | .decimal _ => 0xFFFE ≤ state.index.toNat
  | _ => False

/-- An instruction accesses an address past memory exactly if its last one is. -/
theorem accesses_past_iff (instruction : Instruction) :
    (∃ address, 0xFFF < address ∧ state.Accesses address instruction) ↔
      match instruction with
      | .draw _ _ height => 0 < height.val ∧ 0xFFF < state.index.toNat + height.val - 1
      | .decimal _ => 0xFFF < state.index.toNat + 2
      | .storeRegisters x | .loadRegisters x => 0xFFF < state.index.toNat + x.val
      | _ => False := by
  cases instruction with
  | draw x y height =>
    constructor
    · rintro ⟨address, past, ⟨reached, inside⟩ | ⟨reached, inside⟩⟩
      · omega
      · exact absurd inside (Nat.not_lt.mpr reached)
    · rintro ⟨some, past⟩
      exact ⟨_, past, .inl ⟨by omega, by omega⟩⟩
  | decimal x =>
    constructor
    · rintro ⟨address, past, reads | ⟨reached, inside⟩⟩
      · cases reads
      · simp only [bytesWritten, List.length_cons, List.length_nil] at inside
        omega
    · intro past
      exact ⟨_, past, .inr ⟨Nat.le_add_right _ _, Nat.lt_succ_self _⟩⟩
  | storeRegisters x =>
    have length : (state.bytesWritten (.storeRegisters x)).length = x.val + 1 := by
      simp only [bytesWritten, List.length_take, Vector.length_toList]
      omega
    constructor
    · rintro ⟨address, past, reads | ⟨reached, inside⟩⟩
      · cases reads
      · omega
    · intro past
      exact ⟨_, past, .inr ⟨Nat.le_add_right _ _, by omega⟩⟩
  | loadRegisters x =>
    constructor
    · rintro ⟨address, past, ⟨reached, inside⟩ | ⟨reached, inside⟩⟩
      · omega
      · exact absurd inside (Nat.not_lt.mpr reached)
    · intro past
      exact ⟨_, past, .inl ⟨Nat.le_add_right _ _, Nat.le_refl _⟩⟩
  | _ =>
    simp only [iff_false]
    rintro ⟨address, past, reads | ⟨reached, inside⟩⟩
    · cases reads
    · exact absurd inside (Nat.not_lt.mpr reached)

/-- An instruction fails for memory exactly if it accesses an address past it and its check does not
wrap. -/
theorem hazard?_eq_memory_iff (instruction : Instruction) :
    state.hazard? edge instruction = some .memory ↔
      (∃ address, 0xFFF < address ∧ state.Accesses address instruction) ∧
        ¬ state.CheckWraps instruction := by
  rw [accesses_past_iff]
  cases instruction with
  | draw x y height =>
    rw [hazard?_draw_iff]
    simp [CheckWraps]
  | decimal x =>
    simp only [hazard?, indexPastMemory_iff, CheckWraps, Nat.not_le, ite_eq_left_iff, reduceCtorEq,
      imp_false, not_not]
  | storeRegisters x | loadRegisters x => simp [hazard?, CheckWraps, windowPastMemory_iff]
  | _ => simp [hazard?]

theorem checkWraps_ofWord_iff (word : UInt16) :
    state.CheckWraps (Instruction.ofWord word) ↔
      word &&& 0xF0FF = 0xF033 ∧ 0xFFFE ≤ state.index.toNat := by
  have kind : (Instruction.ofWord word).op = .decimal ↔ word &&& 0xF0FF = 0xF033 :=
    op_ofWord_iff ⟨0xF0FF, 0xF033, .decimal⟩ (by decide) word
  rw [← kind]
  cases Instruction.ofWord word <;> simp [CheckWraps, Instruction.op]

/-! ## Fetch, instructions and steps -/

theorem fetch_fault_iff (healthy : state.fault = Fault.healthy) :
    state.fetch.state.fault = Fault.memory.code ↔ 0xFFE < state.pc.toNat ∧ state.pc.toNat ≠ 0xFFFF := by
  have recorded : state.fetch.state.fault =
      if 0xFFF < state.pc + 1 then Fault.memory.code else Fault.healthy := by
    rw [fetch, fetchWith_state, healthy]
    simp only [and_true]
  rw [recorded, ite_eq_left_iff, ← pastMemory_iff]
  simp only [(Fault.code_ne_healthy .memory).symm, imp_false, not_not]

theorem execute_fault_iff (healthy : state.fault = Fault.healthy) (word : Int32) :
    (state.execute word).fault = Fault.memory.code ↔
      (∃ address, 0xFFF < address ∧ state.Accesses address (Instruction.decode word)) ∧
        ¬ state.CheckWraps (Instruction.decode word) := by
  rw [execute, executeWith, performWith_fault _ _ healthy, Fault.codeOf_eq_code_iff,
    hazard?_eq_memory_iff]

/-- A step accesses an address, in its fetch or in its instruction, and keeps what it did. -/
def Commits (state : State) (address : Nat) : Prop :=
  state.mode = Mode.running ∧ state.step.fault = Fault.healthy ∧
    (address = state.pc.toNat ∨ address = (state.pc + 1).toNat ∨
      state.Accesses address (Instruction.ofWord state.fetch.word))

/-- A running step that records no fault has passed the check of its fetch and that of its
instruction. -/
theorem passed_of_kept (healthy : state.fault = Fault.healthy) (running : state.mode = Mode.running)
    (kept : state.step.fault = Fault.healthy) :
    state.stepHazard? Edge.last = none ∧ ¬ 0xFFF < state.pc + 1 ∧
      state.hazard? Edge.last (Instruction.ofWord state.fetch.word) = none := by
  rw [step, stepWith_fault _ _ healthy, if_pos running, Fault.codeOf_eq_healthy_iff] at kept
  refine ⟨kept, ?_⟩
  rw [stepHazard?] at kept
  split at kept
  · cases kept
  · next inMemory => exact ⟨inMemory, kept⟩

/-- The accesses past memory that a step keeps are those that its two short sums let pass. -/
theorem commits_past_iff (healthy : state.fault = Fault.healthy) :
    (∃ address, 0xFFF < address ∧ state.Commits address) ↔
      state.mode = Mode.running ∧ state.step.fault = Fault.healthy ∧
        (state.pc.toNat = 0xFFFF ∨ state.CheckWraps (Instruction.ofWord state.fetch.word)) := by
  constructor
  · rintro ⟨address, past, running, kept, access⟩
    refine ⟨running, kept, ?_⟩
    obtain ⟨-, inMemory, passed⟩ := passed_of_kept healthy running kept
    -- The check of the fetch looks at the second byte, so that only the first one can be past memory.
    rcases access with rfl | rfl | accesses
    · rw [pastMemory_iff] at inMemory
      exact .inl (by omega)
    · have secondPast : 0xFFF < state.pc + 1 := UInt16.lt_iff_toNat_lt.mpr past
      exact absurd secondPast inMemory
    · refine .inr (not_not.mp fun exactSum => ?_)
      have failed : state.hazard? Edge.last (Instruction.ofWord state.fetch.word) = some .memory :=
        (hazard?_eq_memory_iff _).mpr ⟨⟨address, past, accesses⟩, exactSum⟩
      rw [passed] at failed
      cases failed
  · rintro ⟨running, kept, atTop | wraps⟩
    · exact ⟨_, atTop ▸ by decide, running, kept, .inl rfl⟩
    · have past : ∃ address, 0xFFF < address ∧
          state.Accesses address (Instruction.ofWord state.fetch.word) := by
        rw [accesses_past_iff]
        cases read : Instruction.ofWord state.fetch.word with
        | decimal x =>
          rw [read, CheckWraps] at wraps
          simp only
          omega
        | _ => rw [read] at wraps; cases wraps
      obtain ⟨address, past, accesses⟩ := past
      exact ⟨address, past, running, kept, .inr (.inr accesses)⟩

/-! ## What lies past memory -/

theorem hazard?_eq_of_memory {instruction : Instruction}
    (passed : state.hazard? Edge.last instruction = none) (beyond : Memory → Nat → UInt8) :
    state.hazard? (Edge.beyondMemory beyond) instruction = none := by
  cases instruction with
  | draw x y height =>
    obtain ⟨inMemory, onScreen⟩ := hazard?_draw_eq_none_iff.mp passed
    have same : (state.sprite Edge.last x y height).cells =
        (state.sprite (Edge.beyondMemory beyond) x y height).cells :=
      sprite_cells_eq (fun row counts => Nat.lt_succ_of_le (inMemory row counts)) _ _
    exact hazard?_draw_eq_none_iff.mpr ⟨inMemory, Sprite.isOffScreen_congr same ▸ onScreen⟩
  | _ => exact passed

theorem performWith_eq_of_memory {instruction : Instruction}
    (passed : state.hazard? Edge.last instruction = none) (beyond : Memory → Nat → UInt8) :
    state.performWith (Edge.beyondMemory beyond) instruction =
      state.performWith Edge.last instruction := by
  cases instruction with
  | draw x y height => exact (draw_eq passed (Edge.beyondMemory beyond)).symm
  | storeRegisters x => exact storeRegisters_eq (Edge.beyondMemory beyond) Edge.last x
  | loadRegisters x =>
    have inMemory : state.index.toNat + x.val ≤ 0xFFF := by
      simpa [hazard?, windowPastMemory] using passed
    exact loadRegisters_eq inMemory (Edge.beyondMemory beyond) Edge.last
  | _ => rfl

/-- A step that records no fault does not depend on what lies past memory, unless it fetches at the very
top. -/
theorem stepWith_eq_of_memory (healthy : state.fault = Fault.healthy)
    (running : state.mode = Mode.running) (kept : state.step.fault = Fault.healthy)
    (notTop : state.pc.toNat ≠ 0xFFFF) (beyond : Memory → Nat → UInt8) :
    state.stepWith (Edge.beyondMemory beyond) = state.step := by
  obtain ⟨found, whole, passed⟩ := passed_of_kept healthy running kept
  have inMemory : state.pc.toNat ≤ 0xFFE := by
    rw [pastMemory_iff] at whole
    omega
  have sameRead : state.fetchedInstruction (Edge.beyondMemory beyond) =
      state.fetchedInstruction Edge.last := by
    rw [fetchedInstruction, fetchedInstruction, fetchedWord_eq _ _ inMemory,
      fetchedWord_eq _ _ inMemory]
  have foundNext : state.stepHazard? (Edge.beyondMemory beyond) = none := by
    rw [stepHazard?, if_neg whole, sameRead]
    exact hazard?_eq_of_memory passed beyond
  have inMemoryNext : state.clearReports.pc.toNat ≤ 0xFFE := inMemory
  have sameFetch := fetchWith_eq_of_inMemory inMemoryNext (Edge.beyondMemory beyond) Edge.last
  have passedNext : (state.clearReports.fetchWith Edge.last).state.hazard? Edge.last
      (state.fetchedInstruction Edge.last) = none := by
    rw [hazard?_fetchWith]
    exact passed
  rw [step, stepWith_of_no_hazard _ _ healthy running foundNext,
    stepWith_of_no_hazard _ _ healthy running found, executedWith, executedWith,
    fetchedInstruction_clearReports, fetchedInstruction_clearReports, sameRead, sameFetch,
    performWith_eq_of_memory passedNext]

/-! ## The kinds of words that go through memory -/

section

variable {word : Int32}

theorem execute_decimal_fault_iff (healthy : state.fault = Fault.healthy)
    (digits : word.toUInt32 &&& 0xF0FF = 0xF033) :
    (state.execute word).fault = Fault.memory.code ↔
      0xFFF < state.index.toNat + 2 ∧ state.index.toNat < 0xFFFE := by
  have kind := classify_of_digits ⟨0xF0FF, 0xF033, .decimal⟩ (by decide) digits
  have read : Instruction.decode word = .decimal (Word.x word) := by rw [Instruction.decode, kind]
  rw [execute_fault_iff healthy, accesses_past_iff, read]
  exact and_congr_right fun _ => Nat.not_le

theorem execute_window_fault_iff (healthy : state.fault = Fault.healthy)
    (digits : word.toUInt32 &&& 0xF0FF = 0xF055 ∨ word.toUInt32 &&& 0xF0FF = 0xF065) :
    (state.execute word).fault = Fault.memory.code ↔
      0xFFF < state.index.toNat + (Word.x word).val := by
  have read : Instruction.decode word = .storeRegisters (Word.x word) ∨
      Instruction.decode word = .loadRegisters (Word.x word) := by
    refine digits.imp (fun digits => ?_) fun digits => ?_
    · have kind := classify_of_digits ⟨0xF0FF, 0xF055, .storeRegisters⟩ (by decide) digits
      rw [Instruction.decode, kind]
    · have kind := classify_of_digits ⟨0xF0FF, 0xF065, .loadRegisters⟩ (by decide) digits
      rw [Instruction.decode, kind]
  rw [execute_fault_iff healthy, accesses_past_iff]
  rcases read with read | read
  all_goals
    rw [read]
    exact and_iff_left id

theorem execute_draw_fault_iff (healthy : state.fault = Fault.healthy)
    (digits : word.toUInt32 &&& 0xF000 = 0xD000) :
    (state.execute word).fault = Fault.memory.code ↔
      0 < (Word.n word).val ∧ 0xFFF < state.index.toNat + (Word.n word).val - 1 := by
  rw [execute_fault_iff healthy, accesses_past_iff, decode_of_draw digits]
  exact and_iff_left id

end

end State

/-- The checks of addresses on every state without a fault. The fetch records a fault if its word is past
memory, except at `0xFFFF`, and the digits of a number if the last one is past memory, except from
`0xFFFE` on. The registers that are stored or loaded and the rows of a sprite are checked without
exception. So a step keeps an access past memory exactly if one of the two exceptions lets it pass, and
if it is not the fetch that is let pass, then what lies past memory has no part in the step. -/
theorem memory_checks_exact {state : State} (healthy : state.fault = Fault.healthy) :
    (state.fetch.state.fault = Fault.memory.code ↔
      0xFFE < state.pc.toNat ∧ state.pc.toNat ≠ 0xFFFF) ∧
    (∀ word : Int32,
      (word.toUInt32 &&& 0xF0FF = 0xF033 →
        ((state.execute word).fault = Fault.memory.code ↔
          0xFFF < state.index.toNat + 2 ∧ state.index.toNat < 0xFFFE)) ∧
      (word.toUInt32 &&& 0xF0FF = 0xF055 ∨ word.toUInt32 &&& 0xF0FF = 0xF065 →
        ((state.execute word).fault = Fault.memory.code ↔
          0xFFF < state.index.toNat + (Word.x word).val)) ∧
      (word.toUInt32 &&& 0xF000 = 0xD000 →
        ((state.execute word).fault = Fault.memory.code ↔
          0 < (Word.n word).val ∧ 0xFFF < state.index.toNat + (Word.n word).val - 1))) ∧
    ((∃ address, 0xFFF < address ∧ state.Commits address) ↔
      state.mode = Mode.running ∧ state.step.fault = Fault.healthy ∧
        (state.pc.toNat = 0xFFFF ∨
          state.fetch.word &&& 0xF0FF = 0xF033 ∧ 0xFFFE ≤ state.index.toNat)) ∧
    (state.mode = Mode.running → state.step.fault = Fault.healthy → state.pc.toNat ≠ 0xFFFF →
      ∀ beyond, state.stepWith (Edge.beyondMemory beyond) = state.step) := by
  refine ⟨State.fetch_fault_iff healthy, fun word =>
    ⟨State.execute_decimal_fault_iff healthy, State.execute_window_fault_iff healthy,
      State.execute_draw_fault_iff healthy⟩, ?_, State.stepWith_eq_of_memory healthy⟩
  rw [State.commits_past_iff healthy, State.checkWraps_ofWord_iff]

/-- A machine about to write the digits of a number to the last bytes of memory, with a word that is itself
the last one. -/
def State.atEnd : State :=
  { State.initial ⟨0, 0⟩ with
    memory := State.initialMemory.write 0xFFE [0xF1, 0x33]
    pc := 0xFFE
    index := 0xFFD }

/-- Three digits and three rows from `0xFFD` on are in memory, four registers and four rows are not. -/
theorem memory_checks_exact_atEnd :
    State.atEnd.fault = Fault.healthy ∧
    State.atEnd.fetch.state.fault ≠ Fault.memory.code ∧
    (State.atEnd.execute 0xF133).fault ≠ Fault.memory.code ∧
    (State.atEnd.execute 0xF355).fault = Fault.memory.code ∧
    (State.atEnd.execute 0xD003).fault ≠ Fault.memory.code ∧
    (State.atEnd.execute 0xD004).fault = Fault.memory.code ∧
    State.atEnd.Commits 0xFFF ∧
    (¬ ∃ address, 0xFFF < address ∧ State.atEnd.Commits address) ∧
    State.atEnd.stepWith (Edge.beyondMemory Edge.stray.memory) = State.atEnd.step := by
  have healthy : State.atEnd.fault = Fault.healthy := rfl
  have running : State.atEnd.mode = Mode.running := rfl
  have atLastWord : State.atEnd.pc.toNat = 0xFFE := rfl
  have atIndex : State.atEnd.index.toNat = 0xFFD := rfl
  have kept : State.atEnd.step.fault = Fault.healthy := by decide +kernel
  obtain ⟨fetches, words, commits, beyond⟩ := memory_checks_exact healthy
  have digits := (words 0xF133).1 (by decide)
  have registers := (words 0xF355).2.1 (by decide)
  have threeRows := (words 0xD003).2.2 (by decide)
  have fourRows := (words 0xD004).2.2 (by decide)
  have inMemory : ¬ ∃ address, 0xFFF < address ∧ State.atEnd.Commits address := by
    rw [commits, atLastWord, atIndex]
    omega
  refine ⟨healthy, mt fetches.mp ?_, mt digits.mp ?_, registers.mpr ?_, mt threeRows.mp ?_,
    fourRows.mpr ?_, ⟨running, kept, .inr (.inl rfl)⟩, inMemory, beyond running kept ?_ _⟩
  all_goals simp only [atLastWord, atIndex]; decide

/-- A machine at the very top of the addresses. -/
def State.atTop : State :=
  { State.initial ⟨0, 0⟩ with pc := 0xFFFF, index := 0xFFFE }

/-- At `0xFFFF` a fetch reads past memory and goes on at address one, and from `0xFFFE` on the digits of a
number are dropped. Neither records a fault, and the step that fetches there is kept. -/
theorem memory_checks_wrap :
    State.atTop.fault = Fault.healthy ∧
    0xFFE < State.atTop.pc.toNat ∧
    State.atTop.fetch.state.fault = Fault.healthy ∧
    State.atTop.fetch.state.pc = 1 ∧
    0xFFF < State.atTop.index.toNat + 2 ∧
    (State.atTop.execute 0xF033).fault = Fault.healthy ∧
    State.atTop.Commits 0xFFFF := by
  have running : State.atTop.mode = Mode.running := rfl
  have atTop : State.atTop.pc.toNat = 0xFFFF := rfl
  have atIndex : State.atTop.index.toNat = 0xFFFE := rfl
  obtain ⟨fetched, next, executed, kept⟩ :
      State.atTop.fetch.state.fault = Fault.healthy ∧ State.atTop.fetch.state.pc = 1 ∧
      (State.atTop.execute 0xF033).fault = Fault.healthy ∧
      State.atTop.step.fault = Fault.healthy := by
    decide +kernel
  have fetches : State.atTop.Commits 0xFFFF := ⟨running, kept, .inl atTop.symm⟩
  rw [atTop, atIndex]
  exact ⟨rfl, by decide, fetched, next, by decide, executed, fetches⟩

end Chip8
