import Chip8.Proofs.Events

/-!
# Two runs that share their calls

A host may look at a machine as often as it likes, ask for what the machine refuses, watch it or not,
and have it strict or not: none of this has a part in what the machine does. Two runs that share their
calls and differ in these respects go through the same states, report the same events and fail in the
same way. What may differ is the mark on the display, which a read takes away, and the failure of a
strict machine at an unknown word.

Results:
1. `stepWith_unmarked`, `step_of_unmarked_eq`: a step does not look at the mark.
2. `Agrees.obey`, `Agrees.obey_machine`: a call of machines that agree comes to the same, and they
   still agree after it.
3. `Idle.state`, `Idle.events`: a call that only looks or is refused changes nothing but the mark and
   reports nothing.
4. `Agrees.runs`, `runs_agree`: two runs that share their calls.
-/

namespace Chip8

namespace State

/-- The state without the mark on its display. -/
def unmarked (state : State) : State :=
  { state with dirty := false }

/-- States that are equal without the mark differ in the mark only. -/
theorem exists_mark {one other : State} (same : one.unmarked = other.unmarked) :
    ∃ mark, other = { one with dirty := mark } := by
  refine ⟨other.dirty, ?_⟩
  have unread : { one.unmarked with dirty := other.dirty } = { one with dirty := other.dirty } := rfl
  rw [← unread, same]
  rfl

variable (edge : Edge) (state : State)

/-! ## The mark and a step -/

theorem performWith_unmarked (instruction : Instruction) :
    (state.unmarked.performWith edge instruction).unmarked =
      (state.performWith edge instruction).unmarked := by
  cases instruction with
  | skipEqByte | skipNeByte | skipEqRegister | skipNeRegister =>
    simp only [performWith, skipIf_eq]
    rfl
  | skipKeyDown | skipKeyUp =>
    simp only [performWith, skipIfKey, skipIf_eq]
    rfl
  | awaitKey x =>
    simp only [performWith, awaitKey_eq]
    rfl
  | _ => rfl

theorem executedWith_unmarked :
    (state.unmarked.executedWith edge).unmarked = (state.executedWith edge).unmarked :=
  performWith_unmarked edge (state.fetchWith edge).state (state.fetchedInstruction edge)

theorem tickIfRunning_unmarked : state.unmarked.tickIfRunning = state.tickIfRunning.unmarked := by
  rw [tickIfRunning_eq, tickIfRunning_eq]
  rfl

theorem pollKeypad_unmarked : state.unmarked.pollKeypad = state.pollKeypad.unmarked := by
  have sameKeys : state.unmarked.keypad.lowest? = state.keypad.lowest? := rfl
  rw [pollKeypad_eq, pollKeypad_eq, sameKeys]
  cases state.keypad.lowest? <;> rfl

/-- A step does not look at the mark on the display. -/
theorem stepWith_unmarked :
    (state.unmarked.stepWith edge).unmarked = (state.stepWith edge).unmarked := by
  by_cases healthy : state.fault = Fault.healthy
  · by_cases running : state.mode = Mode.running
    · cases found : state.stepHazard? edge with
      | none =>
        have foundUnmarked : state.unmarked.stepHazard? edge = none := found
        rw [stepWith_of_no_hazard _ _ healthy running found,
          stepWith_of_no_hazard _ state.unmarked healthy running foundUnmarked,
          ← tickIfRunning_unmarked, ← tickIfRunning_unmarked]
        exact congrArg tickIfRunning (executedWith_unmarked edge state.clearReports)
      | some fault =>
        have foundUnmarked : state.unmarked.stepHazard? edge = some fault := found
        rw [stepWith_of_hazard _ _ healthy running found,
          stepWith_of_hazard _ state.unmarked healthy running foundUnmarked]
        rfl
    · rw [stepWith_of_waiting _ _ healthy running,
        stepWith_of_waiting _ state.unmarked healthy running, ← pollKeypad_unmarked,
        ← pollKeypad_unmarked]
      rfl
  · rw [stepWith_of_fault _ _ healthy, stepWith_of_fault _ state.unmarked healthy]
    rfl

/-- States that differ in the mark only do so after a step. -/
theorem step_of_unmarked_eq {one other : State} (same : one.unmarked = other.unmarked) :
    one.step.unmarked = other.step.unmarked := by
  rw [step, step, ← stepWith_unmarked, same, stepWith_unmarked]

end State

/-- The event with the mark taken off the state that it carries. -/
def Event.unmarked : Event → Event
  | .stepped after => .stepped after.unmarked
  | event => event

namespace Machine

/-- A strict machine fails at an unknown word where one that is not strict goes on. -/
def Outcome.FailsAsStrict {α : Type} (one other : Outcome α) : Prop :=
  ∃ opcode address,
    one.machine.strict = true ∧ one.failure? = some (.unknownOpcode opcode address) ∧
      other.machine.strict = false ∧ other.failure? = none

/-- Two calls come to the same: the states are equal but for the mark on the display, the events but
for the marks in their states, and the failures but for that of a strict machine at an unknown
word. -/
structure Outcome.Agrees {α : Type} (one other : Outcome α) : Prop where
  state : one.machine.state.unmarked = other.machine.state.unmarked
  events : one.events.map Event.unmarked = other.events.map Event.unmarked
  failure : one.failure? = other.failure? ∨ one.FailsAsStrict other ∨ other.FailsAsStrict one

/-- Machines that restart the same random stream, in states that are equal but for the mark. -/
structure Agrees (one other : Machine) : Prop where
  random : one.random = other.random
  state : one.state.unmarked = other.state.unmarked

variable {one other : Machine}

/-! ## Calls that both machines get -/

theorem step_strict (machine : Machine) : machine.step.machine.strict = machine.strict := by
  have same : machine.step.machine = (machine.obey .step).machine := rfl
  rw [same, obey_machine]

/-- Of two machines that agree and do not fault only a strict one can fail. -/
theorem Agrees.failure_of_healthy (agree : one.Agrees other)
    (healthy : one.state.fault = Fault.healthy)
    (healthyNext : one.state.step.fault = Fault.healthy)
    (otherHealthy : other.state.fault = Fault.healthy)
    (otherNext : other.state.step.fault = Fault.healthy) :
    one.step.failure? = other.step.failure? ∨ one.step.FailsAsStrict other.step ∨
      other.step.FailsAsStrict one.step := by
  obtain ⟨mark, sameState⟩ := State.exists_mark agree.state
  obtain ⟨markNext, sameNext⟩ := State.exists_mark (State.step_of_unmarked_eq agree.state)
  have pc : other.state.pc = one.state.pc := by rw [sameState]
  have opcode : other.state.step.opcode = one.state.step.opcode := by rw [sameNext]
  have noted : other.state.step.unknownOpcode = one.state.step.unknownOpcode := by rw [sameNext]
  simp only [Outcome.FailsAsStrict, step_strict, failure?_of_healthy healthy healthyNext,
    failure?_of_healthy otherHealthy otherNext, pc, opcode, noted]
  cases one.strict <;> cases other.strict <;> cases one.state.step.unknownOpcode <;> simp

/-- A step of two machines that agree comes to the same. -/
theorem Agrees.step (agree : one.Agrees other) : one.step.Agrees other.step := by
  obtain ⟨mark, sameState⟩ := State.exists_mark agree.state
  obtain ⟨markNext, sameNext⟩ := State.exists_mark (State.step_of_unmarked_eq agree.state)
  have fault : other.state.fault = one.state.fault := by rw [sameState]
  have faultNext : other.state.step.fault = one.state.step.fault := by rw [sameNext]
  by_cases healthy : one.state.fault = Fault.healthy
  · by_cases healthyNext : one.state.step.fault = Fault.healthy
    · have otherHealthy := fault.trans healthy
      have otherNext := faultNext.trans healthyNext
      have failure := agree.failure_of_healthy healthy healthyNext otherHealthy otherNext
      refine ⟨?_, ?_, failure⟩
      · rw [step_machine_of_healthy healthy, step_machine_of_healthy otherHealthy, sameNext]
        rfl
      · rw [step_of_healthy healthy healthyNext, step_of_healthy otherHealthy otherNext, sameNext,
          sameState]
        simp only [List.map_append, List.map_cons, apply_ite (List.map Event.unmarked)]
        rfl
    · rw [step_of_faulted healthy healthyNext,
        step_of_faulted (fault.trans healthy) (faultNext ▸ healthyNext), sameNext]
      exact ⟨rfl, rfl, .inl rfl⟩
  · rw [step_of_halted (isHalted_iff.mpr healthy),
      step_of_halted (isHalted_iff.mpr (fault ▸ healthy)), sameState]
    exact ⟨agree.state, rfl, .inl rfl⟩

theorem Outcome.Agrees.map {α β : Type} {one other : Outcome α} (agree : one.Agrees other)
    (form : α → β) : (one.map form).Agrees (other.map form) := by
  refine ⟨agree.state, agree.events, ?_⟩
  simp only [Outcome.FailsAsStrict, failure?_map]
  exact agree.failure

theorem Agrees.load (agree : one.Agrees other) (program : Program) :
    (one.load program).Agrees (other.load program) := by
  obtain ⟨mark, sameState⟩ := State.exists_mark agree.state
  refine ⟨?_, ?_, .inl ?_⟩
  · rw [load_state, load_state, sameState]
    rfl
  · rw [load_events, load_events]
  · rw [load_failure?, load_failure?]

theorem Agrees.setKey (agree : one.Agrees other) (key : Int) (down : Bool) :
    (one.setKey key down).Agrees (other.setKey key down) := by
  obtain ⟨mark, sameState⟩ := State.exists_mark agree.state
  refine ⟨?_, ?_, .inl ?_⟩
  · rw [setKey_state, setKey_state, sameState]
    rfl
  · rw [setKey_events, setKey_events]
  · rw [setKey_failure?, setKey_failure?]

/-- A call of two machines that agree comes to the same. -/
theorem Agrees.obey (agree : one.Agrees other) (command : Command) :
    (one.obey command).Agrees (other.obey command) := by
  cases command with
  | reset =>
    refine ⟨?_, rfl, .inl rfl⟩
    rw [obey_state, obey_state, agree.random]
  | load program => exact (agree.load program).map _
  | step => exact agree.step.map _
  | keyDown key => exact (agree.setKey key true).map _
  | keyUp key => exact (agree.setKey key false).map _
  | displayDirty | soundActive => exact ⟨agree.state, rfl, .inl rfl⟩
  | readDisplay =>
    obtain ⟨mark, sameState⟩ := State.exists_mark agree.state
    refine ⟨?_, rfl, .inl rfl⟩
    rw [obey_state, obey_state, sameState]

/-- Machines that agree still do so after a call. -/
theorem Agrees.obey_machine (agree : one.Agrees other) (command : Command) :
    (one.obey command).machine.Agrees (other.obey command).machine := by
  refine ⟨?_, (agree.obey command).state⟩
  rw [Machine.obey_machine, Machine.obey_machine other]
  exact agree.random

/-! ## Calls that one machine gets alone -/

/-- The call only looks at the machine, or it is one that the machine refuses: a program that does
not fit, a key that the keypad does not have, or a step of a machine that is halted. -/
def Idle (machine : Machine) : Command → Prop
  | .displayDirty | .readDisplay | .soundActive => True
  | .load program => programCapacity < program.size
  | .keyDown key | .keyUp key => ¬(0 ≤ key ∧ key < 16)
  | .step => machine.isHalted = true
  | .reset => False

instance (machine : Machine) : (command : Command) → Decidable (machine.Idle command)
  | .displayDirty | .readDisplay | .soundActive => inferInstanceAs (Decidable True)
  | .load program => inferInstanceAs (Decidable (programCapacity < program.size))
  | .keyDown key | .keyUp key => inferInstanceAs (Decidable ¬(0 ≤ key ∧ key < 16))
  | .step => inferInstanceAs (Decidable (machine.isHalted = true))
  | .reset => inferInstanceAs (Decidable False)

variable {machine : Machine}

/-- An idle call leaves everything but the mark. -/
theorem Idle.state {command : Command} (idle : machine.Idle command) :
    (machine.obey command).machine.state.unmarked = machine.state.unmarked := by
  cases command with
  | reset => exact idle.elim
  | load program =>
    have oversized : programCapacity < program.size := idle
    simp only [obey_state, load_state, if_pos oversized]
  | step =>
    have halted : machine.isHalted = true := idle
    simp only [obey_state, if_pos halted]
  | keyDown key | keyUp key =>
    have offKeypad : ¬(0 ≤ key ∧ key < 16) := idle
    simp only [obey_state, setKey_state, if_neg offKeypad]
  | displayDirty | readDisplay | soundActive => rfl

/-- An idle call reports nothing. -/
theorem Idle.events {command : Command} (idle : machine.Idle command) :
    (machine.obey command).events = [] := by
  rw [obey_events]
  cases command with
  | reset => exact idle.elim
  | load program => exact if_pos idle
  | step => exact congrArg Outcome.events (step_of_halted idle)
  | keyDown key | keyUp key | displayDirty | readDisplay | soundActive => rfl

/-- Machines agree whether or not one of them gets an idle call. -/
theorem Agrees.of_idle {command : Command} (agree : one.Agrees other)
    (idle : one.Idle command) :
    (one.obey command).machine.Agrees other := by
  refine ⟨?_, idle.state.trans agree.state⟩
  rw [Machine.obey_machine]
  exact agree.random

theorem Agrees.symm (agree : one.Agrees other) : other.Agrees one :=
  ⟨agree.random.symm, agree.state.symm⟩

/-! ## Runs that share their calls -/

/-- A call of one of two runs. -/
inductive Call where
  /-- The other run has the call too. -/
  | shared (command : Command)
  /-- The run has the call alone. -/
  | own (command : Command)

def Call.command : Call → Command
  | .shared command | .own command => command

def Call.shared? : Call → Option Command
  | .shared command => some command
  | .own _ => none

/-- A run in which every call that it has alone is idle when it comes. -/
def Lawful (machine : Machine) : List Call → Prop
  | [] => True
  | .shared command :: rest => (machine.obey command).machine.Lawful rest
  | .own command :: rest =>
    machine.Idle command ∧ (machine.obey command).machine.Lawful rest

instance decidableLawful : (machine : Machine) → (calls : List Call) →
    Decidable (machine.Lawful calls)
  | _, [] => .isTrue trivial
  | machine, .shared command :: rest => decidableLawful (machine.obey command).machine rest
  | machine, .own command :: rest =>
    have := decidableLawful (machine.obey command).machine rest
    inferInstanceAs (Decidable (machine.Idle command ∧ _))

/-- What the shared calls of a run come to, in order. -/
def sharedOutcomes (machine : Machine) : List Call → List (Outcome Answer)
  | [] => []
  | .shared command :: rest =>
    machine.obey command :: (machine.obey command).machine.sharedOutcomes rest
  | .own command :: rest => (machine.obey command).machine.sharedOutcomes rest

/-- Only the shared calls of a run report anything. -/
theorem reported_of_lawful {calls : List Call} (lawful : machine.Lawful calls) :
    machine.reported (calls.map Call.command) =
      (machine.sharedOutcomes calls).flatMap (·.events) := by
  induction calls generalizing machine with
  | nil => rfl
  | cons call rest ih =>
    rw [List.map_cons, reported_cons]
    cases call with
    | shared command => rw [sharedOutcomes, List.flatMap_cons, ← ih lawful, Call.command]
    | own command =>
      rw [sharedOutcomes, ← ih lawful.2, Call.command, lawful.1.events, List.nil_append]

/-- Runs of machines that agree come to the same in every call that they share, and the machines
agree at their end. -/
theorem Agrees.runs {one other : Machine} {calls calls' : List Call} (agree : one.Agrees other)
    (lawful : one.Lawful calls) (lawful' : other.Lawful calls')
    (same : calls.filterMap Call.shared? = calls'.filterMap Call.shared?) :
    List.Forall₂ Outcome.Agrees (one.sharedOutcomes calls) (other.sharedOutcomes calls') ∧
      (one.after (calls.map Call.command)).Agrees (other.after (calls'.map Call.command)) := by
  -- Calls that a run has alone are taken off first; they leave the machines in agreement.
  match calls, calls' with
  | [], [] => exact ⟨.nil, agree⟩
  | .own command :: rest, calls' => exact (agree.of_idle lawful.1).runs lawful.2 lawful' same
  | calls, .own command :: rest' =>
    exact (agree.symm.of_idle lawful'.1).symm.runs lawful lawful'.2 same
  | .shared command :: rest, .shared command' :: rest' =>
    obtain ⟨rfl, sameRest⟩ := List.cons.inj same
    obtain ⟨outcomes, final⟩ := (agree.obey_machine command).runs lawful lawful' sameRest
    exact ⟨.cons (agree.obey command) outcomes, final⟩
  | [], .shared _ :: _ | .shared _ :: _, [] => cases same
termination_by calls.length + calls'.length

/-- The events that outcomes report are the same but for the marks if the outcomes agree. -/
theorem unmarked_events {ones others : List (Outcome Answer)}
    (agree : List.Forall₂ Outcome.Agrees ones others) :
    (ones.flatMap (·.events)).map Event.unmarked =
      (others.flatMap (·.events)).map Event.unmarked := by
  induction agree with
  | nil => rfl
  | cons first _ ih =>
    rw [List.flatMap_cons, List.flatMap_cons, List.map_append, List.map_append, first.events, ih]

end Machine

/-- What a watcher receives is the same but for the marks if what is reported is. -/
theorem unmarked_received {Name : Type} [DecidableEq Name] {watcher : Name}
    {watchers watchers' : List Name} {events events' : List Event}
    (attached : watchers.count watcher = watchers'.count watcher)
    (same : events.map Event.unmarked = events'.map Event.unmarked) :
    (received watcher (notices watchers events)).map Event.unmarked =
      (received watcher (notices watchers' events')).map Event.unmarked := by
  have unmarked_flatMap : ∀ (count : Nat) (events : List Event),
      (events.flatMap (List.replicate count)).map Event.unmarked =
        (events.map Event.unmarked).flatMap (List.replicate count) := by
    intro count events
    rw [List.map_flatMap, List.flatMap_map]
    simp only [List.map_replicate]
  rw [received_notices, received_notices, unmarked_flatMap, unmarked_flatMap, attached, same]

/-- Looking at a machine, asking for what it refuses, watching it and having it strict do not change
what it does. Take two runs from the same random stream that share their calls, each with calls of
its own that only look or are refused. Every shared call comes to the same in both: it leaves the same
state but for the mark on the display, reports the same events, and fails alike but for a strict
machine at an unknown word. At the end of the runs, which may be behind any of the shared calls, the
states are the same but for the mark, and whoever watches both machines has received the same. -/
theorem runs_agree (random : RandomKey) (strict strict' : Bool) (calls calls' : List Machine.Call)
    (lawful : (Machine.fresh random strict).Lawful calls)
    (lawful' : (Machine.fresh random strict').Lawful calls')
    (same : calls.filterMap Machine.Call.shared? = calls'.filterMap Machine.Call.shared?) :
    let one := Machine.fresh random strict
    let other := Machine.fresh random strict'
    let commands := calls.map Machine.Call.command
    let commands' := calls'.map Machine.Call.command
    List.Forall₂ Machine.Outcome.Agrees (one.sharedOutcomes calls) (other.sharedOutcomes calls') ∧
    (one.after commands).state.unmarked = (other.after commands').state.unmarked ∧
    ∀ (Name : Type) [DecidableEq Name] (watchers watchers' : List Name) (watcher : Name),
      watchers.count watcher = watchers'.count watcher →
      (received watcher (Watched.told ⟨one, watchers⟩ commands)).map Event.unmarked =
        (received watcher (Watched.told ⟨other, watchers'⟩ commands')).map Event.unmarked := by
  have agree : (Machine.fresh random strict).Agrees (Machine.fresh random strict') := ⟨rfl, rfl⟩
  obtain ⟨outcomes, final⟩ := agree.runs lawful lawful' same
  refine ⟨outcomes, final.state, fun Name _ watchers watchers' watcher attached => ?_⟩
  rw [Watched.told_eq, Watched.told_eq, Machine.reported_of_lawful lawful,
    Machine.reported_of_lawful lawful']
  exact unmarked_received attached (Machine.unmarked_events outcomes)

/-- Calls for a program that is an unknown word and a return with no call open, with looks at the
machine and refused calls in between. -/
def Machine.curiousCalls : List Machine.Call := [
  .own .displayDirty, .shared (.load #[0x00, 0x00, 0x00, 0xEE]), .own (.load (Array.replicate 3585 0)),
  .shared .step, .own .readDisplay, .shared (.keyDown 3), .own (.keyUp 16), .shared .step, .own .step,
  .own .soundActive, .shared .step, .shared .reset]

/-- The same calls with none in between. -/
def Machine.plainCalls : List Machine.Call := [
  .shared (.load #[0x00, 0x00, 0x00, 0xEE]), .shared .step, .shared (.keyDown 3), .shared .step,
  .shared .step, .shared .reset]

/-- A strict machine with curious calls and one that is not strict with plain calls come to the same,
though only the first fails at the unknown word. -/
theorem runs_agree_curious :
    let one := Machine.fresh ⟨0, 0⟩ true
    let other := Machine.fresh ⟨0, 0⟩ false
    one.Lawful Machine.curiousCalls ∧ other.Lawful Machine.plainCalls ∧
    Machine.curiousCalls.filterMap Machine.Call.shared? =
      Machine.plainCalls.filterMap Machine.Call.shared? ∧
    (one.sharedOutcomes Machine.curiousCalls).map (·.failure?) =
      [none, some (.unknownOpcode 0 0x200), none, some (.outOfRange 3 0x202 0xEE),
        some (.outOfRange 3 0x202 0xEE), none] ∧
    (other.sharedOutcomes Machine.plainCalls).map (·.failure?) =
      [none, none, none, some (.outOfRange 3 0x202 0xEE), some (.outOfRange 3 0x202 0xEE), none] ∧
    List.Forall₂ Machine.Outcome.Agrees (one.sharedOutcomes Machine.curiousCalls)
      (other.sharedOutcomes Machine.plainCalls) ∧
    (received 7
        (Watched.told ⟨one, [7]⟩ (Machine.curiousCalls.map Machine.Call.command))).map
        Event.unmarked =
      (received 7
        (Watched.told ⟨other, [4, 7]⟩ (Machine.plainCalls.map Machine.Call.command))).map
        Event.unmarked := by
  obtain ⟨lawful, lawful', same, strictFails, othersFail⟩ :
      (Machine.fresh ⟨0, 0⟩ true).Lawful Machine.curiousCalls ∧
      (Machine.fresh ⟨0, 0⟩ false).Lawful Machine.plainCalls ∧
      Machine.curiousCalls.filterMap Machine.Call.shared? =
        Machine.plainCalls.filterMap Machine.Call.shared? ∧
      ((Machine.fresh ⟨0, 0⟩ true).sharedOutcomes Machine.curiousCalls).map (·.failure?) =
        [none, some (.unknownOpcode 0 0x200), none, some (.outOfRange 3 0x202 0xEE),
          some (.outOfRange 3 0x202 0xEE), none] ∧
      ((Machine.fresh ⟨0, 0⟩ false).sharedOutcomes Machine.plainCalls).map (·.failure?) =
        [none, none, none, some (.outOfRange 3 0x202 0xEE), some (.outOfRange 3 0x202 0xEE),
          none] := by
    decide +kernel
  obtain ⟨outcomes, -, watched⟩ := runs_agree ⟨0, 0⟩ true false _ _ lawful lawful' same
  exact ⟨lawful, lawful', same, strictFails, othersFail, outcomes,
    watched Nat [7] [4, 7] 7 (by decide)⟩

end Chip8
