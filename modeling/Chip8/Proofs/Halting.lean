import Chip8.Proofs.Host
import Chip8.Proofs.Step
import Mathlib.Logic.Function.Iterate

/-!
# Faults halt the machine

A step that faults is discarded as a whole: of what it did only the fault and the word remain. From
then on no step does anything, and a host that goes on gets the same failure from every step until
it resets the machine.

Results:
1. `step_of_faulted`: what a faulting step leaves.
2. `iterate_step_of_fault`: any number of further steps only withdraws the reports.
3. `step_after_of_halted`: a halted machine, whatever its host asks short of a reset.
4. `fault_atomic_permanent`: the three together, from the step that halts a machine on.
-/

namespace Chip8

namespace State

/-- A step that faults leaves the state as it was, but for the fault, the word and the reports. -/
theorem step_of_faulted {state : State} (healthy : state.fault = Fault.healthy)
    (faulted : state.step.fault ≠ Fault.healthy) :
    state.step =
      { state with
        fault := state.step.fault
        opcode := state.fetch.word
        unknownOpcode := false
        tone := false } := by
  have recorded := stepWith_fault Edge.last state healthy
  by_cases running : state.mode = Mode.running
  · cases found : state.stepHazard? Edge.last with
    | none =>
      rw [if_pos running, found] at recorded
      exact absurd recorded faulted
    | some fault =>
      have discarded := stepWith_of_hazard Edge.last state healthy running found
      rw [step, discarded]
      rfl
  · rw [if_neg running] at recorded
    exact absurd recorded faulted

/-- Steps of a faulted state only withdraw what the last step reported. -/
theorem iterate_step_of_fault {state : State} (faulty : state.fault ≠ Fault.healthy) (count : Nat) :
    step^[count + 1] state = state.clearReports := by
  induction count with
  | zero => exact stepWith_of_fault _ _ faulty
  | succ count ih =>
    rw [Function.iterate_succ_apply', ih]
    exact stepWith_of_fault _ state.clearReports faulty

end State

namespace Machine

/-- A halted machine fails a step and stays what it is. -/
theorem step_of_halted {machine : Machine} (halted : machine.isHalted = true) :
    machine.step = ⟨machine, [], .error (haltFailure machine.state)⟩ :=
  if_pos halted

/-- Only a reset changes why a halted machine fails. -/
theorem obey_of_halted {machine : Machine} {command : Command} (halted : machine.isHalted = true)
    (kept : command ≠ .reset) :
    (machine.obey command).machine.isHalted = true ∧
      haltFailure (machine.obey command).machine.state = haltFailure machine.state := by
  rw [isHalted_iff, obey_state]
  cases command with
  | reset => exact absurd rfl kept
  | step =>
    simp only [halted, if_true]
    exact ⟨isHalted_iff.mp halted, trivial⟩
  | load program =>
    simp only [load_state]
    exact ⟨isHalted_iff.mp halted, rfl⟩
  | keyDown key | keyUp key =>
    simp only [setKey_state]
    exact ⟨isHalted_iff.mp halted, rfl⟩
  | displayDirty | readDisplay | soundActive => exact ⟨isHalted_iff.mp halted, rfl⟩

/-- However a host goes on without a reset, the next step fails as the first one did. -/
theorem step_after_of_halted {machine : Machine} (halted : machine.isHalted = true)
    {commands : List Command} (kept : .reset ∉ commands) :
    (machine.after commands).step =
      ⟨machine.after commands, [], .error (haltFailure machine.state)⟩ := by
  -- Each command leaves a machine that is halted for the same fault; the induction carries that on.
  induction commands generalizing machine with
  | nil => exact step_of_halted halted
  | cons command rest ih =>
    rw [List.mem_cons, not_or] at kept
    obtain ⟨haltedNext, failure⟩ := obey_of_halted halted (Ne.symm kept.1)
    rw [after_cons, ih haltedNext kept.2, failure]

/-- The step that halts a machine reports the fault and fails with it. -/
theorem step_of_faulted {machine : Machine} (healthy : machine.state.fault = Fault.healthy)
    (faulted : machine.state.step.fault ≠ Fault.healthy) :
    machine.step =
      ⟨{ machine with state := machine.state.step },
        [.stepped machine.state.step, haltEvent machine.state.step],
        .error (haltFailure machine.state.step)⟩ := by
  have running : machine.isHalted = false := by simp [isHalted, healthy]
  have halted : ({ machine with state := machine.state.step } : Machine).isHalted = true :=
    isHalted_iff.mpr faulted
  simp [step, running, halted]

/-- A step that leaves a halted machine fails for its fault. -/
theorem step_result_of_halted {machine : Machine} (halted : machine.step.machine.isHalted = true) :
    machine.step.result = .error (haltFailure machine.step.machine.state) := by
  by_cases haltedBefore : machine.isHalted = true
  · rw [step_of_halted haltedBefore]
  · have healthy : machine.state.fault = Fault.healthy := by
      simpa [isHalted_iff] using haltedBefore
    have faulted : machine.state.step.fault ≠ Fault.healthy := by
      rwa [isHalted_iff, step_state, if_neg haltedBefore] at halted
    rw [step_of_faulted healthy faulted]

/-- A healthy step fails at most for an unknown word. -/
theorem step_of_healthy_ne_outOfRange {machine : Machine}
    (healthy : machine.state.fault = Fault.healthy)
    (healthyNext : machine.state.step.fault = Fault.healthy) (fault address opcode : Int) :
    machine.step.result ≠ .error (.outOfRange fault address opcode) := by
  intro failed
  simp only [step, isHalted, healthy, healthyNext, bne_self_eq_false, Bool.false_eq_true,
    if_false] at failed
  split at failed
  · simp only at failed
    split at failed <;> cases failed
  · cases failed

/-- A step that fails for a fault leaves a halted machine, whose failure is that of the step; its
address is where the program counter was. -/
theorem step_of_outOfRange {machine : Machine} {fault address opcode : Int}
    (failed : machine.step.result = .error (.outOfRange fault address opcode)) :
    machine.step.machine.isHalted = true ∧
      haltFailure machine.step.machine.state = .outOfRange fault address opcode ∧
      address = machine.state.pc.toNat := by
  by_cases halted : machine.isHalted = true
  · rw [step_of_halted halted] at failed ⊢
    have failure := Except.error.inj failed
    exact ⟨halted, failure, (Failure.outOfRange.inj failure).2.1.symm⟩
  · have healthy : machine.state.fault = Fault.healthy := by
      simpa [isHalted_iff] using halted
    by_cases faulted : machine.state.step.fault = Fault.healthy
    · exact absurd failed (step_of_healthy_ne_outOfRange healthy faulted _ _ _)
    · rw [step_of_faulted healthy faulted] at failed ⊢
      have failure := Except.error.inj failed
      have samePc : machine.state.step.pc = machine.state.pc := by
        rw [State.step_of_faulted healthy faulted]
      refine ⟨isHalted_iff.mpr faulted, failure, ?_⟩
      rw [← samePc]
      exact (Failure.outOfRange.inj failure).2.1.symm

end Machine

/-- Faults are atomic and permanent: a faulting step keeps nothing but the fault and the word, no
number of later steps does anything, and once a step of a machine has failed for a fault, every step
before the next reset fails alike, silently, and leaves the machine as it is. The failure names the
address of the instruction that faulted. -/
theorem fault_atomic_permanent :
    (∀ state : State, state.fault = Fault.healthy → state.step.fault ≠ Fault.healthy →
      state.step =
        { state with
          fault := state.step.fault
          opcode := state.fetch.word
          unknownOpcode := false
          tone := false }) ∧
    (∀ (state : State) (count : Nat), state.fault ≠ Fault.healthy →
      State.step^[count + 1] state = { state with unknownOpcode := false, tone := false }) ∧
    (∀ (machine : Machine) (fault address opcode : Int) (commands : List Machine.Command),
      machine.step.result = .error (.outOfRange fault address opcode) → .reset ∉ commands →
      address = machine.state.pc.toNat ∧
      (machine.step.machine.after commands).step =
        ⟨machine.step.machine.after commands, [], .error (.outOfRange fault address opcode)⟩) := by
  refine ⟨fun state => State.step_of_faulted,
    fun state count faulty => State.iterate_step_of_fault faulty count, ?_⟩
  intro machine fault address opcode commands failed kept
  obtain ⟨halted, failure, atInstruction⟩ := Machine.step_of_outOfRange failed
  refine ⟨atInstruction, ?_⟩
  rw [Machine.step_after_of_halted halted kept, failure]

/-- A machine about to return although no call is open. -/
def Machine.returning : Machine :=
  (Machine.fresh ⟨0, 0⟩ false).after [.load #[0x00, 0xEE]]

/-- The return of `Machine.returning` halts it for good: keys, a new program and further steps do
not help. -/
theorem fault_atomic_permanent_returning :
    Machine.returning.state.fault = Fault.healthy ∧
    Machine.returning.state.step.fault ≠ Fault.healthy ∧
    Machine.returning.state.step =
      { Machine.returning.state with
        fault := Machine.returning.state.step.fault
        opcode := Machine.returning.state.fetch.word
        unknownOpcode := false
        tone := false } ∧
    State.step^[3] Machine.returning.state.step =
      { Machine.returning.state.step with unknownOpcode := false, tone := false } ∧
    Machine.returning.step.result = .error (.outOfRange 3 0x200 0x00EE) ∧
    (Machine.returning.step.machine.after [.keyDown 3, .step, .load #[0x12, 0x00]]).step.result =
      .error (.outOfRange 3 0x200 0x00EE) := by
  have healthy : Machine.returning.state.fault = Fault.healthy := by decide +kernel
  have faulted : Machine.returning.state.step.fault ≠ Fault.healthy := by decide +kernel
  have failed : Machine.returning.step.result = .error (.outOfRange 3 0x200 0x00EE) := by
    rw [Machine.step_of_faulted healthy faulted]
    exact congrArg Except.error (by decide +kernel)
  refine ⟨healthy, faulted, fault_atomic_permanent.1 _ healthy faulted,
    fault_atomic_permanent.2.1 _ 2 faulted, failed, ?_⟩
  have permanent := fault_atomic_permanent.2.2 Machine.returning 3 0x200 0x00EE
    [.keyDown 3, .step, .load #[0x12, 0x00]] failed (by decide)
  rw [permanent.2]

end Chip8
