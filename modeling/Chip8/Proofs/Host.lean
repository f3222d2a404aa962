import Chip8.Machine

/-!
# What a host's operations do to the state

Each operation of a host changes one part of the state, or takes a step, or builds the state anew;
an operation that fails for its arguments changes nothing. `obey_state` says so once for all of
them, and `obey_state_of_ne` names the fields that are left to the operations without a step.
`obey_events` and `obey_machine` say what an operation reports and what it leaves of the machine.
-/

namespace Chip8.Machine

variable (machine : Machine)

theorem isHalted_iff {machine : Machine} :
    machine.isHalted = true ↔ machine.state.fault ≠ Fault.healthy := by
  simp [isHalted]

theorem isHalted_eq_false_iff {machine : Machine} :
    machine.isHalted = false ↔ machine.state.fault = Fault.healthy := by
  simp [isHalted]

theorem after_cons (command : Command) (rest : List Command) :
    machine.after (command :: rest) = (machine.obey command).machine.after rest :=
  rfl

theorem load_state (program : Program) :
    (machine.load program).machine.state =
      { machine.state with
        memory :=
          if programCapacity < program.size then machine.state.memory
          else machine.state.memory.write programStart program.toList } := by
  unfold load State.load
  by_cases oversized : programCapacity < program.size <;> simp [oversized]

theorem step_state :
    machine.step.machine.state =
      if machine.isHalted then machine.state else machine.state.step := by
  simp only [step]
  split
  · rfl
  · split
    · rfl
    · split <;> rfl

theorem setKey_state (key : Int) (down : Bool) :
    (machine.setKey key down).machine.state =
      { machine.state with
        keypad :=
          if 0 ≤ key ∧ key < 16 then machine.state.keypad.setIfInBounds key.toNat down
          else machine.state.keypad } := by
  unfold setKey
  split <;> rfl

/-- The state that an operation leaves. -/
theorem obey_state (command : Command) :
    (machine.obey command).machine.state =
      match command with
      | .reset => State.initial machine.random
      | .load program => (machine.load program).machine.state
      | .step => if machine.isHalted then machine.state else machine.state.step
      | .keyDown key => (machine.setKey key true).machine.state
      | .keyUp key => (machine.setKey key false).machine.state
      | .readDisplay => { machine.state with dirty := false }
      | .displayDirty | .soundActive => machine.state := by
  cases command with
  | step => exact machine.step_state
  | _ => rfl

/-- Apart from steps and resets a host reaches the memory, the keypad and the mark on the display. -/
theorem obey_state_of_ne {command : Command} (notStep : command ≠ .step)
    (notReset : command ≠ .reset) :
    (machine.obey command).machine.state =
      { machine.state with
        memory := (machine.obey command).machine.state.memory
        keypad := (machine.obey command).machine.state.keypad
        dirty := (machine.obey command).machine.state.dirty } := by
  rw [obey_state]
  cases command with
  | step => exact absurd rfl notStep
  | reset => exact absurd rfl notReset
  | load program => simp only [load_state]
  | keyDown key | keyUp key => simp only [setKey_state]
  | displayDirty | readDisplay | soundActive => rfl

/-- The machine that an operation leaves differs by its state only. -/
theorem obey_machine (command : Command) :
    (machine.obey command).machine =
      { machine with state := (machine.obey command).machine.state } := by
  cases command with
  | load program =>
    simp only [obey, Outcome.map, load]
    split <;> rfl
  | step =>
    simp only [obey, Outcome.map, step]
    split
    · rfl
    · split
      · rfl
      · split <;> rfl
  | keyDown key | keyUp key =>
    simp only [obey, Outcome.map, setKey]
    split <;> rfl
  | reset | displayDirty | readDisplay | soundActive => rfl

theorem after_machine (commands : List Command) :
    machine.after commands = { machine with state := (machine.after commands).state } := by
  induction commands generalizing machine with
  | nil => rfl
  | cons command rest ih => rw [after_cons, ih, obey_machine]

theorem load_events (program : Program) :
    (machine.load program).events =
      if programCapacity < program.size then [] else [.loaded program.size] := by
  unfold load State.load
  by_cases oversized : programCapacity < program.size <;> simp [oversized]

theorem setKey_events (key : Int) (down : Bool) : (machine.setKey key down).events = [] := by
  unfold setKey
  split <;> rfl

/-- Why an operation failed, if it did. -/
def Outcome.failure? {α : Type} (outcome : Outcome α) : Option Failure :=
  match outcome.result with
  | .ok _ => none
  | .error failure => some failure

theorem failure?_map {α β : Type} (form : α → β) (outcome : Outcome α) :
    (outcome.map form).failure? = outcome.failure? := by
  obtain ⟨machine, events, result⟩ := outcome
  cases result <;> rfl

theorem load_failure? (program : Program) :
    (machine.load program).failure? =
      if programCapacity < program.size then
        some (.oversizedProgram program.size programCapacity)
      else none := by
  unfold load State.load
  by_cases oversized : programCapacity < program.size <;> simp [oversized, Outcome.failure?]

theorem setKey_failure? (key : Int) (down : Bool) :
    (machine.setKey key down).failure? =
      if 0 ≤ key ∧ key < 16 then none else some (.invalidKey key) := by
  unfold setKey
  by_cases onKeypad : 0 ≤ key ∧ key < 16 <;> simp [onKeypad, Outcome.failure?]

/-- What an operation reports. -/
theorem obey_events (command : Command) :
    (machine.obey command).events =
      match command with
      | .reset => [.reset]
      | .load program => if programCapacity < program.size then [] else [.loaded program.size]
      | .step => machine.step.events
      | .keyDown _ | .keyUp _ | .displayDirty | .readDisplay | .soundActive => [] := by
  cases command with
  | load program => exact machine.load_events program
  | keyDown key => exact machine.setKey_events key true
  | keyUp key => exact machine.setKey_events key false
  | reset | step | displayDirty | readDisplay | soundActive => rfl

end Chip8.Machine
