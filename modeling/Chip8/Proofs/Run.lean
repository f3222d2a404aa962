import Chip8.Proofs.Sound

/-!
# Runs and the steps they are made of

A run is a machine together with what its host asks of it, one operation after the other. Laws of a
run are about its steps: which instruction a step carries out and keeps, whether it is completed,
and what the run reports on the way.

Results:
1. `Sound.stepOutcome`: a step keeps an instruction, ends a wait, does nothing, or is discarded.
2. `Sound.committed_of_passed`, `passed_of_committed`, `Sound.read_of_committed`: an instruction is
   kept if it passes its check; what an instruction has passed, and where it was read.
3. `Sound.obey_step`: the steps of a host are those of the state.
4. `after_append`, `steppedFrom_append`, `completedSteps_append`: runs one behind the other.
-/

namespace Chip8

namespace State

/-! ## What a step keeps -/

/-- The instruction that the next step carries out and keeps. There is none on a halted machine, on
one that waits for a key, and where the step faults. -/
def committed? (state : State) : Option Instruction :=
  if state.fault = Fault.healthy ∧ state.mode = Mode.running ∧ state.step.fault = Fault.healthy then
    some (Instruction.ofWord state.word)
  else none

/-- The next step is completed: it does not fault, and the machine runs after it. A wait for a key
is completed by the step that ends it. -/
def completes (state : State) : Bool :=
  state.step.fault = Fault.healthy ∧ state.step.mode = Mode.running

variable {state : State}

theorem completes_iff :
    state.completes = true ↔
      state.step.fault = Fault.healthy ∧ state.step.mode = Mode.running := by
  simp [completes]

theorem committed?_eq_some_iff {instruction : Instruction} :
    state.committed? = some instruction ↔
      (state.fault = Fault.healthy ∧ state.mode = Mode.running ∧
        state.step.fault = Fault.healthy) ∧ Instruction.ofWord state.word = instruction := by
  simp [committed?]

theorem committed?_of_fault (faulty : state.fault ≠ Fault.healthy) : state.committed? = none :=
  if_neg fun kept => faulty kept.1

theorem committed?_of_waiting (waiting : state.mode ≠ Mode.running) : state.committed? = none :=
  if_neg fun kept => waiting kept.2.1

/-- A running step of a healthy machine is kept exactly if it passes every check. -/
theorem committed?_eq_none_iff (healthy : state.fault = Fault.healthy)
    (running : state.mode = Mode.running) :
    state.committed? = none ↔ state.stepHazard? Edge.last ≠ none := by
  rw [committed?, ite_eq_right_iff, step_fault_of_running healthy running,
    Fault.codeOf_eq_healthy_iff]
  simp [healthy, running]

/-- Inside memory the check of a step is that of the instruction at the program counter. -/
theorem Sound.stepHazard?_of_inMemory (sound : state.Sound) (edge : Edge)
    (inMemory : state.pc.toNat ≤ 0xFFE) :
    state.stepHazard? edge = state.hazard? edge (Instruction.ofWord state.word) := by
  rw [stepHazard?, if_neg (mt sound.pastMemory_iff.mp (Nat.not_lt.mpr inMemory)),
    fetchedInstruction, fetchedWord_eq _ _ inMemory]

/-- An instruction that passes its check is kept. -/
theorem Sound.committed_of_passed (sound : state.Sound) (healthy : state.fault = Fault.healthy)
    (running : state.mode = Mode.running) (inMemory : state.pc.toNat ≤ 0xFFE)
    {instruction : Instruction} (read : Instruction.ofWord state.word = instruction)
    (passed : state.hazard? Edge.last instruction = none) :
    state.committed? = some instruction := by
  refine committed?_eq_some_iff.mpr ⟨⟨healthy, running, ?_⟩, read⟩
  rw [step_fault_of_running healthy running, sound.stepHazard?_of_inMemory _ inMemory, read, passed,
    Fault.codeOf_none]

theorem passed_of_committed {instruction : Instruction}
    (committed : state.committed? = some instruction) :
    state.stepHazard? Edge.last = none := by
  obtain ⟨⟨healthy, running, healthyNext⟩, -⟩ := committed?_eq_some_iff.mp committed
  rw [step_fault_of_running healthy running] at healthyNext
  exact (Fault.codeOf_eq_healthy_iff _).mp healthyNext

theorem Sound.pc_le_of_committed (sound : state.Sound) {instruction : Instruction}
    (committed : state.committed? = some instruction) : state.pc.toNat ≤ 0xFFE :=
  sound.pc_le_of_passed (passed_of_committed committed)

/-- The instruction that is kept is the one that the fetch reads. -/
theorem Sound.read_of_committed (sound : state.Sound) {instruction : Instruction}
    (committed : state.committed? = some instruction) :
    state.fetchedInstruction Edge.last = instruction := by
  rw [fetchedInstruction, fetchedWord_eq _ _ (sound.pc_le_of_committed committed)]
  exact (committed?_eq_some_iff.mp committed).2

theorem step_of_committed {instruction : Instruction}
    (committed : state.committed? = some instruction) :
    state.step = (state.clearReports.executedWith Edge.last).tickIfRunning := by
  obtain ⟨⟨healthy, running, -⟩, -⟩ := committed?_eq_some_iff.mp committed
  exact stepWith_of_no_hazard _ _ healthy running (passed_of_committed committed)

/-- Reports that were withdrawn before are not there to withdraw. -/
theorem clearReports_of_quiet (quietWord : state.unknownOpcode = false)
    (quietTone : state.tone = false) : state.clearReports = state := by
  cases state
  simp_all [clearReports]

/-- What a step comes to. -/
inductive StepOutcome (state : State) : Prop where
  /-- The instruction is kept, and the timers count unless it starts a wait. -/
  | kept (instruction : Instruction) (committed : state.committed? = some instruction)
      (read : state.clearReports.fetchedInstruction Edge.last = instruction)
      (result : state.step = (state.clearReports.executedWith Edge.last).tickIfRunning)
  /-- A key that is down ends a wait. -/
  | resolved (key : Fin 16) (committed : state.committed? = none)
      (completed : state.completes = true)
      (result : state.step =
        { state.clearReports.tick with
          registers := state.registers.setIfInBounds state.waitRegister.toNat (UInt8.ofNat key)
          mode := Mode.running })
  /-- A wait goes on, or the machine is halted. -/
  | idle (committed : state.committed? = none) (completed : state.completes = false)
      (result : state.step = state.clearReports)
  /-- The step faults and is discarded. -/
  | discarded (fault : Fault) (committed : state.committed? = none)
      (completed : state.completes = false)
      (result : state.step =
        { state.clearReports with
          fault := fault.code
          opcode := state.fetchedWord Edge.last })

theorem stepOutcome_of_waiting (healthy : state.fault = Fault.healthy)
    (waiting : state.mode ≠ Mode.running) : state.StepOutcome := by
  have committed := committed?_of_waiting waiting
  have polled : state.step = state.clearReports.pollKeypad :=
    stepWith_of_waiting _ _ healthy waiting
  have lowest : state.clearReports.keypad.lowest? = state.keypad.lowest? := rfl
  rw [pollKeypad_eq, lowest] at polled
  cases down : state.keypad.lowest? with
  | some key =>
    rw [down] at polled
    have completed : state.completes = true := by
      rw [completes_iff, polled]
      exact ⟨healthy, rfl⟩
    exact .resolved key committed completed polled
  | none =>
    rw [down] at polled
    have unfinished : state.completes = false := by
      rw [← Bool.not_eq_true, completes_iff, polled]
      exact fun completed => waiting completed.2
    exact .idle committed unfinished polled

theorem Sound.stepOutcome (sound : state.Sound) : state.StepOutcome := by
  by_cases healthy : state.fault = Fault.healthy
  · by_cases running : state.mode = Mode.running
    · cases committed : state.committed? with
      | some instruction =>
        exact .kept instruction committed (sound.read_of_committed committed)
          (step_of_committed committed)
      | none =>
        have failed := (committed?_eq_none_iff healthy running).mp committed
        obtain ⟨fault, found⟩ := Option.ne_none_iff_exists'.mp failed
        have result := stepWith_of_hazard Edge.last state healthy running found
        have unfinished : state.completes = false := by
          rw [← Bool.not_eq_true, completes_iff, step, result]
          exact fun completed => fault.code_ne_healthy completed.1
        exact .discarded fault committed unfinished result
    · exact stepOutcome_of_waiting healthy running
  · have result : state.step = state.clearReports := stepWith_of_fault _ _ healthy
    have unfinished : state.completes = false := by
      rw [← Bool.not_eq_true, completes_iff, result]
      exact fun completed => healthy completed.1
    exact .idle (committed?_of_fault healthy) unfinished result

end State

namespace Machine

variable {machine : Machine}

/-! ## Steps of a host -/

/-- A halted machine has nothing left to report, so that a failed step leaves what a step of its
state does. -/
theorem Sound.obey_step (sound : machine.state.Sound) :
    (machine.obey .step).machine.state = machine.state.step := by
  rw [obey_state]
  simp only [ite_eq_right_iff]
  intro halted
  have faulty := isHalted_iff.mp halted
  obtain ⟨quietWord, quietTone⟩ := sound.halted faulty
  have result : machine.state.step = machine.state.clearReports :=
    State.stepWith_of_fault _ _ faulty
  rw [result, State.clearReports_of_quiet quietWord quietTone]

/-! ## Runs -/

theorem after_append (first second : List Command) :
    machine.after (first ++ second) = (machine.after first).after second :=
  List.foldl_append

theorem reachable_after (random : RandomKey) (strict : Bool) (first second : List Command) :
    (((fresh random strict).after first).after second).state.Reachable :=
  ⟨random, strict, first ++ second, by rw [after_append]⟩

/-- The states on which a run asks for a step, in order. -/
def steppedFrom (machine : Machine) : List Command → List State
  | [] => []
  | command :: rest =>
    let later := (machine.obey command).machine.steppedFrom rest
    if command = .step then machine.state :: later else later

/-- How many steps of a run are completed. -/
def completedSteps (machine : Machine) (commands : List Command) : Nat :=
  (machine.steppedFrom commands).countP State.completes

/-- What a run reports, in order. -/
def reported (machine : Machine) (commands : List Command) : List Event :=
  (machine.obeyAll commands).flatMap (·.events)

theorem steppedFrom_append (first second : List Command) :
    machine.steppedFrom (first ++ second) =
      machine.steppedFrom first ++ (machine.after first).steppedFrom second := by
  induction first generalizing machine with
  | nil => rfl
  | cons command rest ih =>
    rw [List.cons_append, steppedFrom, steppedFrom, ih, after_cons]
    split <;> rfl

theorem forall_steppedFrom_cons {holds : State → Prop} (command : Command) (rest : List Command) :
    (∀ stepped ∈ machine.steppedFrom (command :: rest), holds stepped) ↔
      (command = .step → holds machine.state) ∧
        ∀ stepped ∈ (machine.obey command).machine.steppedFrom rest, holds stepped := by
  rw [steppedFrom]
  by_cases isStep : command = .step <;> simp [isStep]

theorem forall_steppedFrom_append {holds : State → Prop} (first second : List Command) :
    (∀ stepped ∈ machine.steppedFrom (first ++ second), holds stepped) ↔
      (∀ stepped ∈ machine.steppedFrom first, holds stepped) ∧
        ∀ stepped ∈ (machine.after first).steppedFrom second, holds stepped := by
  rw [steppedFrom_append, List.forall_mem_append]

theorem completedSteps_append (first second : List Command) :
    machine.completedSteps (first ++ second) =
      machine.completedSteps first + (machine.after first).completedSteps second := by
  simp only [completedSteps, steppedFrom_append, List.countP_append]

theorem completedSteps_cons (command : Command) (rest : List Command) :
    machine.completedSteps (command :: rest) =
      machine.completedSteps [command] + (machine.obey command).machine.completedSteps rest :=
  completedSteps_append [command] rest

theorem completedSteps_singleton (command : Command) :
    machine.completedSteps [command] =
      if command = .step ∧ machine.state.completes then 1 else 0 := by
  by_cases isStep : command = .step
  · subst isStep
    cases completed : machine.state.completes <;> simp [completedSteps, steppedFrom, completed]
  · simp [completedSteps, steppedFrom, isStep]

theorem reported_cons (command : Command) (rest : List Command) :
    machine.reported (command :: rest) =
      (machine.obey command).events ++ (machine.obey command).machine.reported rest :=
  rfl

theorem reported_append (first second : List Command) :
    machine.reported (first ++ second) =
      machine.reported first ++ (machine.after first).reported second := by
  induction first generalizing machine with
  | nil => rfl
  | cons command rest ih =>
    rw [List.cons_append, reported_cons, reported_cons, ih, after_cons, List.append_assoc]

end Machine

end Chip8
