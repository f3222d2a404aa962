import Chip8.Proofs.FaultCondition
import Chip8.Proofs.Window

/-!
# What lies past the arrays does not matter

Some instructions read past an array although nothing is wrong: the windows of sixteen registers and
the rows of a sprite are read as a whole, and a drawing looks at the display under all the bits that
a sprite of sixteen rows would have. `State.stepWith` leaves to an `Edge` what such a read yields. On
the states that a machine reaches the choice has no part in a step: an instruction that passes its
checks uses none of those values, and one that fails a check is discarded.

Results:
1. `performWith_eq_of_no_hazard`: an instruction that passes its checks.
2. `reached_stepWith_eq_step`: the whole step. Only the word of a fetch past memory can differ.
-/

namespace Chip8

namespace State

variable {state : State}

/-! ## Instructions that pass their checks -/

/-- The end of a call takes a word that is on the stack. -/
theorem ret_eq (sound : state.stack.Sound) (edge other : Edge) :
    state.ret edge = state.ret other := by
  rw [ret, ret, sound.top_eq edge, sound.top_eq other]

theorem skipIfKey_eq {x : Fin 16} (isKey : (state.register x).toNat < 16) (edge other : Edge)
    (down : Bool) : state.skipIfKey edge x down = state.skipIfKey other x down := by
  rw [skipIfKey, skipIfKey, readCell_of_lt isKey, readCell_of_lt isKey]

theorem draw_eq {x y height : Fin 16} {edge : Edge}
    (passed : state.hazard? edge (.draw x y height) = none) (other : Edge) :
    state.draw edge x y height = state.draw other x y height := by
  obtain ⟨inMemory, onScreen⟩ := hazard?_draw_eq_none_iff.mp passed
  have same : (state.sprite edge x y height).cells = (state.sprite other x y height).cells :=
    sprite_cells_eq (fun row counts => Nat.lt_succ_of_le (inMemory row counts)) edge other
  simp only [draw, Sprite.draw_eq_of_onScreen same onScreen edge other,
    Sprite.collides_eq_of_onScreen same onScreen edge other, Sprite.isOffScreen_congr same]

theorem storeRegisters_eq (edge other : Edge) (x : Fin 16) :
    state.storeRegisters edge x = state.storeRegisters other x := by
  have same : state.writeMemory state.index.toNat
        (spliceAt x state.registers (state.window edge)).toList =
      state.writeMemory state.index.toNat
        (spliceAt x state.registers (state.window other)).toList :=
    congrArg (fun memory => { state with memory := memory }) (stored_eq edge other x)
  rw [storeRegisters, storeRegisters, same]

theorem loadRegisters_eq {x : Fin 16} (inMemory : state.index.toNat + x.val ≤ 0xFFF)
    (edge other : Edge) : state.loadRegisters edge x = state.loadRegisters other x := by
  rw [loadRegisters, loadRegisters, splice_window_eq inMemory edge other]

/-- An instruction that passes its checks does not depend on what lies past the arrays. -/
theorem performWith_eq_of_no_hazard (sound : state.stack.Sound) {edge : Edge}
    {instruction : Instruction} (passed : state.hazard? edge instruction = none) (other : Edge) :
    state.performWith edge instruction = state.performWith other instruction := by
  cases instruction with
  | ret => exact ret_eq sound edge other
  | draw x y height => exact draw_eq passed other
  | skipKeyDown x | skipKeyUp x =>
    have isKey : (state.register x).toNat < 16 := by
      simpa [hazard?, key_iff, Nat.lt_succ_iff] using passed
    exact skipIfKey_eq isKey edge other _
  | storeRegisters x => exact storeRegisters_eq edge other x
  | loadRegisters x =>
    have inMemory : state.index.toNat + x.val ≤ 0xFFF := by
      simpa [hazard?, windowPastMemory] using passed
    exact loadRegisters_eq inMemory edge other
  | _ => rfl

/-! ## Steps -/

theorem fetchWith_eq_of_inMemory (inMemory : state.pc.toNat ≤ 0xFFE) (edge other : Edge) :
    state.fetchWith edge = state.fetchWith other := by
  have sameWord : state.fetchedWord edge = state.fetchedWord other := by
    rw [fetchedWord_eq _ _ inMemory, fetchedWord_eq _ _ inMemory]
  have sameState : (state.fetchWith edge).state = (state.fetchWith other).state := by
    rw [fetchWith_state, fetchWith_state, sameWord]
  exact Fetched.ext sameState sameWord

theorem executedWith_eq_of_passed (sound : state.Sound) {edge : Edge}
    (passed : state.stepHazard? edge = none) (other : Edge) :
    state.executedWith edge = state.executedWith other := by
  have inMemory := sound.pc_le_of_passed passed
  have sameFetch := fetchWith_eq_of_inMemory inMemory edge other
  have sameRead : state.fetchedInstruction edge = state.fetchedInstruction other := by
    rw [fetchedInstruction, fetchedInstruction, fetchedWord, fetchedWord, sameFetch]
  have sameStack : (state.fetchWith edge).state.stack.Sound := sound.stack
  have passedNext :
      (state.fetchWith edge).state.hazard? edge (state.fetchedInstruction edge) = none := by
    rw [hazard?_fetchWith]
    exact hazard?_of_passed passed
  rw [executedWith, executedWith, ← sameFetch, ← sameRead]
  exact performWith_eq_of_no_hazard sameStack passedNext other

/-- The checks of a step come out the same, whatever lies past the arrays. -/
theorem stepHazard?_eq (sound : state.Sound) (edge other : Edge) :
    state.stepHazard? edge = state.stepHazard? other :=
  Option.ext fun fault => by
    rw [stepHazard?_eq_some_iff sound, stepHazard?_eq_some_iff sound]

/-- Past memory a step records the fault, and only the word can depend on what lies there. -/
theorem stepWith_of_pastMemory (sound : state.Sound) (healthy : state.fault = Fault.healthy)
    (running : state.mode = Mode.running) (past : 0xFFE < state.pc.toNat) (edge : Edge) :
    state.stepWith edge =
      { state.clearReports with fault := Fault.memory.code, opcode := state.fetchedWord edge } := by
  have found : state.stepHazard? edge = some .memory :=
    (stepHazard?_eq_some_iff sound edge .memory).mpr (.inl past)
  exact stepWith_of_hazard _ _ healthy running found

/-- Every other step is the same, whatever lies past the arrays. -/
theorem stepWith_eq (sound : state.Sound)
    (wholeWord : state.fault = Fault.healthy → state.mode = Mode.running →
      state.pc.toNat ≤ 0xFFE)
    (edge other : Edge) : state.stepWith edge = state.stepWith other := by
  by_cases healthy : state.fault = Fault.healthy
  · by_cases running : state.mode = Mode.running
    · have inMemory := wholeWord healthy running
      have sameChecks := stepHazard?_eq sound edge other
      cases found : state.stepHazard? edge with
      | none =>
        rw [stepWith_of_no_hazard _ _ healthy running found,
          stepWith_of_no_hazard _ _ healthy running (sameChecks.symm.trans found),
          executedWith_eq_of_passed sound.clearReports found other]
      | some fault =>
        rw [stepWith_of_hazard _ _ healthy running found,
          stepWith_of_hazard _ _ healthy running (sameChecks.symm.trans found),
          fetchedWord_eq _ _ inMemory, fetchedWord_eq _ _ inMemory]
    · rw [stepWith_of_waiting _ _ healthy running, stepWith_of_waiting _ _ healthy running]
  · rw [stepWith_of_fault _ _ healthy, stepWith_of_fault _ _ healthy]

end State

/-- On a state that a machine reaches, a step is the same whatever the reads past the arrays yield.
The exception is a running step at an address with no whole word: there every choice gives the same
state with the same fault, but for the word. -/
theorem reached_stepWith_eq_step {state : State} (reached : state.Reachable) (edge : Edge) :
    (¬ (state.fault = Fault.healthy ∧ state.mode = Mode.running ∧ 0xFFE < state.pc.toNat) →
      state.stepWith edge = state.step) ∧
    (state.fault = Fault.healthy → state.mode = Mode.running → 0xFFE < state.pc.toNat →
      state.step.fault = Fault.memory.code ∧
      state.stepWith edge = { state.step with opcode := (state.stepWith edge).opcode }) := by
  have sound := reached.sound
  constructor
  · intro usual
    refine State.stepWith_eq sound (fun healthy running => ?_) edge Edge.last
    exact Nat.not_lt.mp fun past => usual ⟨healthy, running, past⟩
  · intro healthy running past
    rw [State.step, State.stepWith_of_pastMemory sound healthy running past,
      State.stepWith_of_pastMemory sound healthy running past]
    exact ⟨rfl, rfl⟩

/-- Reads past an array yield values that no array of the machine ends with. -/
def Edge.stray : Edge where
  memory _ address := UInt8.ofNat (0xA5 + address)
  display _ cell := cell % 2 == 0
  keypad _ key := key % 2 == 1
  saved _ depth := UInt16.ofNat (0xBEEF + depth)

/-- A machine about to draw the first row of a glyph in the last row of the screen. -/
def Machine.drawingLast : Machine :=
  (Machine.fresh ⟨0, 0⟩ false).after
    [.load #[0x60, 0x38, 0x61, 0x1F, 0xD0, 0x11], .step, .step]

/-- A machine about to store one register at the last address. -/
def Machine.storingLast : Machine :=
  (Machine.fresh ⟨0, 0⟩ false).after [.load #[0xAF, 0xFF, 0xF0, 0x55], .step]

/-- A machine that has jumped past the end of memory. -/
def Machine.strayed : Machine :=
  (Machine.fresh ⟨0, 0⟩ false).after [.load #[0x60, 0xFF, 0xBF, 0xFF], .step, .step]

/-- The second row of the sprite would be below the screen. The drawing looks there and finds what the
choice yields, but neither the display nor `VF` depends on it, and the step is kept. -/
theorem reached_stepWith_eq_step_stray :
    Machine.drawingLast.state.Reachable ∧
    Machine.drawingLast.state.step.fault = Fault.healthy ∧
    ((Machine.drawingLast.state.sprite Edge.stray 0 1 1).under Edge.stray
      Machine.drawingLast.state.display 1 0 ≠
        (Machine.drawingLast.state.sprite Edge.last 0 1 1).under Edge.last
          Machine.drawingLast.state.display 1 0) ∧
    Machine.drawingLast.state.pc.toNat ≤ 0xFFE ∧
    Machine.drawingLast.state.stepWith Edge.stray = Machine.drawingLast.state.step ∧
    Machine.storingLast.state.Reachable ∧
    Machine.storingLast.state.fault = Fault.healthy ∧
    Machine.storingLast.state.pc.toNat ≤ 0xFFE ∧
    Machine.storingLast.state.stepWith Edge.stray = Machine.storingLast.state.step ∧
    Machine.strayed.state.Reachable ∧
    Machine.strayed.state.fault = Fault.healthy ∧
    Machine.strayed.state.mode = Mode.running ∧
    0xFFE < Machine.strayed.state.pc.toNat ∧
    Machine.strayed.state.stepWith Edge.stray =
      { Machine.strayed.state.step with
        opcode := (Machine.strayed.state.stepWith Edge.stray).opcode } := by
  have drawing : Machine.drawingLast.state.Reachable := ⟨_, _, _, rfl⟩
  obtain ⟨kept, looks, inReach⟩ :
      Machine.drawingLast.state.step.fault = Fault.healthy ∧
      ((Machine.drawingLast.state.sprite Edge.stray 0 1 1).under Edge.stray
        Machine.drawingLast.state.display 1 0 ≠
          (Machine.drawingLast.state.sprite Edge.last 0 1 1).under Edge.last
            Machine.drawingLast.state.display 1 0) ∧
      Machine.drawingLast.state.pc.toNat ≤ 0xFFE := by
    decide +kernel
  have storing : Machine.storingLast.state.Reachable := ⟨_, _, _, rfl⟩
  obtain ⟨healthyStoring, inMemory⟩ :
      Machine.storingLast.state.fault = Fault.healthy ∧
      Machine.storingLast.state.pc.toNat ≤ 0xFFE := by
    decide +kernel
  have strayed : Machine.strayed.state.Reachable := ⟨_, _, _, rfl⟩
  obtain ⟨healthy, running, past⟩ :
      Machine.strayed.state.fault = Fault.healthy ∧ Machine.strayed.state.mode = Mode.running ∧
      0xFFE < Machine.strayed.state.pc.toNat := by
    decide +kernel
  refine ⟨drawing, kept, looks, inReach, ?_, storing, healthyStoring, inMemory, ?_, strayed, healthy,
    running, past, ?_⟩
  · refine (reached_stepWith_eq_step drawing Edge.stray).1 fun unusual => ?_
    exact Nat.not_lt.mpr inReach unusual.2.2
  · refine (reached_stepWith_eq_step storing Edge.stray).1 fun unusual => ?_
    exact Nat.not_lt.mpr inMemory unusual.2.2
  · exact ((reached_stepWith_eq_step strayed Edge.stray).2 healthy running past).2

end Chip8
