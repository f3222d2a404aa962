import Chip8.Proofs.KeyWait

/-!
# What a run does to the timers

A step that is completed lets both timers count once, behind what its instruction did to them, and
every other step leaves them alone. So a timer tells how many steps were completed since it was set.

Results:
1. `Sound.timer_of_completes`, `Sound.timer_of_not_completes`: the timers after one step.
2. `Sound.completes_of_wait`: a wait counts as one completed step, the one that ends it.
3. `Sound.step_of_readDelay`: a timer is read before it counts.
4. `timer_after`, `stopped_after`: a timer that is not set during a run, or only set to zero.
-/

namespace Chip8

/-! ## Setting a timer -/

/-- One of the two timers. -/
inductive Timer where
  | delay
  | sound
deriving DecidableEq, Repr

/-- The instruction that sets a timer from a register. -/
def Timer.set : Timer → Fin 16 → Instruction
  | .delay => .setDelay
  | .sound => .setSound

/-- The register that an instruction sets a timer from, if it does. -/
def Instruction.sets? : Timer → Instruction → Option (Fin 16)
  | .delay, .setDelay x => some x
  | .sound, .setSound x => some x
  | _, _ => none

theorem Instruction.sets?_eq_some_iff {timer : Timer} {instruction : Instruction} {x : Fin 16} :
    instruction.sets? timer = some x ↔ instruction = timer.set x := by
  cases timer <;> cases instruction <;> simp [sets?, Timer.set]

theorem toNat_eq_one_iff {byte : UInt8} : byte.toNat = 1 ↔ byte = 1 := by
  rw [← UInt8.toNat_inj]
  rfl

namespace State

/-- What a timer shows. -/
def timer (state : State) : Timer → UInt8
  | .delay => state.delayTimer
  | .sound => state.soundTimer

/-- The register that the next step sets a timer from, if it does. -/
def setsFrom? (state : State) (timer : Timer) : Option (Fin 16) :=
  state.committed?.bind (Instruction.sets? timer)

/-- A timer as the instruction of the next step leaves it, before it counts. -/
def timerSet (state : State) (timer : Timer) : UInt8 :=
  match state.setsFrom? timer with
  | some x => state.register x
  | none => state.timer timer

variable {state : State} {timer : Timer}

theorem setsFrom?_eq_some_iff {x : Fin 16} :
    state.setsFrom? timer = some x ↔ state.committed? = some (timer.set x) := by
  simp [setsFrom?, Option.bind_eq_some_iff, Instruction.sets?_eq_some_iff]

theorem setsFrom?_eq_none_iff :
    state.setsFrom? timer = none ↔ ∀ x, state.committed? ≠ some (timer.set x) := by
  simp only [Option.eq_none_iff_forall_ne_some, ne_eq, setsFrom?_eq_some_iff]

theorem timerSet_of_none (unset : state.setsFrom? timer = none) :
    state.timerSet timer = state.timer timer := by
  rw [timerSet, unset]

theorem timerSet_of_committed {x : Fin 16} (committed : state.committed? = some (timer.set x)) :
    state.timerSet timer = state.register x := by
  rw [timerSet, setsFrom?_eq_some_iff.mpr committed]

theorem setsFrom?_of_committed_none (committed : state.committed? = none) :
    state.setsFrom? timer = none := by
  rw [setsFrom?, committed]
  rfl

theorem performWith_timer (edge : Edge) (state : State) (instruction : Instruction)
    (timer : Timer) :
    (state.performWith edge instruction).timer timer =
      match instruction.sets? timer with
      | some x => state.register x
      | none => state.timer timer := by
  cases timer with
  | delay =>
    rw [State.timer, performWith_delayTimer]
    cases instruction <;> rfl
  | sound =>
    rw [State.timer, performWith_soundTimer]
    cases instruction <;> rfl

theorem toNat_timer_tick (state : State) (timer : Timer) :
    (state.tick.timer timer).toNat = (state.timer timer).toNat - 1 := by
  cases timer with
  | delay => exact toNat_tick_delayTimer state
  | sound => exact toNat_tick_soundTimer state

/-! ## The timers after a step -/

theorem tickIfRunning_of_running (running : state.mode = Mode.running) :
    state.tickIfRunning = state.tick :=
  if_pos running

theorem tickIfRunning_of_waiting (waiting : state.mode ≠ Mode.running) :
    state.tickIfRunning = state :=
  if_neg waiting

/-- An instruction that is kept completes its step unless it starts a wait. -/
theorem completes_iff_of_committed {instruction : Instruction}
    (committed : state.committed? = some instruction) :
    state.completes = true ↔ (state.clearReports.executedWith Edge.last).mode = Mode.running := by
  have healthy := (committed?_eq_some_iff.mp committed).1.2.2
  rw [completes_iff, and_iff_right healthy, step_of_committed committed, tickIfRunning_eq]

theorem Sound.executedWith_timer (sound : state.Sound) {instruction : Instruction}
    (committed : state.committed? = some instruction) (timer : Timer) :
    (state.clearReports.executedWith Edge.last).timer timer = state.timerSet timer := by
  rw [executedWith, performWith_timer, fetchedInstruction_clearReports,
    sound.read_of_committed committed, timerSet, setsFrom?, committed]
  rfl

/-- Only a wait that starts with no key down is kept and not completed. -/
theorem Sound.awaitKey_of_not_completes (sound : state.Sound) {instruction : Instruction}
    (committed : state.committed? = some instruction) (unfinished : state.completes = false) :
    ∃ x, instruction = .awaitKey x ∧ state.keypad.lowest? = none := by
  have running := (committed?_eq_some_iff.mp committed).1.2.1
  rw [← Bool.not_eq_true, completes_iff_of_committed committed, executedWith_mode,
    fetchedInstruction_clearReports, sound.read_of_committed committed] at unfinished
  cases instruction with
  | awaitKey x => exact ⟨x, rfl, of_not_not fun down => unfinished ((if_neg down).trans running)⟩
  | _ => exact absurd running unfinished

/-- A step that is not completed sets no timer. -/
theorem Sound.setsFrom?_of_not_completes (sound : state.Sound)
    (unfinished : state.completes = false) (timer : Timer) : state.setsFrom? timer = none := by
  cases committed : state.committed? with
  | none => exact setsFrom?_of_committed_none committed
  | some instruction =>
    obtain ⟨x, rfl, -⟩ := sound.awaitKey_of_not_completes committed unfinished
    rw [setsFrom?, committed]
    cases timer <;> rfl

/-- A completed step lets a timer count once, behind its own instruction. -/
theorem Sound.timer_of_completes (sound : state.Sound) (completed : state.completes = true)
    (timer : Timer) : (state.step.timer timer).toNat = (state.timerSet timer).toNat - 1 := by
  cases sound.stepOutcome with
  | kept _ committed _ result =>
    have running := (completes_iff_of_committed committed).mp completed
    rw [result, tickIfRunning_of_running running, toNat_timer_tick,
      sound.executedWith_timer committed]
  | resolved key committed _ result =>
    rw [timerSet_of_none (setsFrom?_of_committed_none committed), result]
    exact toNat_timer_tick state.clearReports timer
  | idle _ unfinished _ | discarded _ _ unfinished _ => cases completed.symm.trans unfinished

/-- A step that is not completed leaves the timers alone. -/
theorem Sound.timer_of_not_completes (sound : state.Sound) (unfinished : state.completes = false)
    (timer : Timer) : state.step.timer timer = state.timer timer := by
  cases sound.stepOutcome with
  | kept _ committed _ result =>
    have waiting := mt (completes_iff_of_committed committed).mpr (Bool.eq_false_iff.mp unfinished)
    rw [result, tickIfRunning_of_waiting waiting, sound.executedWith_timer committed,
      timerSet_of_none (sound.setsFrom?_of_not_completes unfinished timer)]
  | resolved _ _ completed _ => cases completed.symm.trans unfinished
  | idle _ _ result | discarded _ _ _ result =>
    rw [result]
    rfl

/-- A wait, begun or going on, is completed by the step that finds a key down, and by no other. -/
theorem Sound.completes_of_wait (sound : state.Sound) (healthy : state.fault = Fault.healthy)
    (waits : state.mode = Mode.awaitingKey ∨ ∃ x, state.committed? = some (.awaitKey x)) :
    state.completes = true ↔ ∃ key, cellAt state.keypad key = true := by
  have someDown : state.keypad.lowest? ≠ none ↔ ∃ key, cellAt state.keypad key = true := by
    simp [Keypad.lowest?_eq_none_iff]
  rw [← someDown]
  rcases waits with waiting | ⟨x, committed⟩
  · cases down : state.keypad.lowest? with
    | none =>
      rw [completes_iff, step_of_waiting_allUp healthy waiting down]
      simp [State.clearReports, waiting, Mode.awaitingKey, Mode.running]
    | some key =>
      rw [completes_iff, step_of_waiting_keyDown healthy waiting down]
      simp [State.clearReports, tick, healthy]
  · have keypad : state.clearReports.keypad = state.keypad := rfl
    have mode : state.clearReports.mode = Mode.running :=
      (committed?_eq_some_iff.mp committed).1.2.1
    rw [completes_iff_of_committed committed, executedWith_mode, fetchedInstruction_clearReports,
      sound.read_of_committed committed]
    simp [keypad, mode, Mode.awaitingKey, Mode.running]

theorem Sound.completes_of_committed (sound : state.Sound) {instruction : Instruction}
    (committed : state.committed? = some instruction) (notWait : ∀ x, instruction ≠ .awaitKey x) :
    state.completes = true := by
  rw [← Bool.not_eq_false]
  intro unfinished
  obtain ⟨x, isWait, -⟩ := sound.awaitKey_of_not_completes committed unfinished
  exact notWait x isWait

theorem Sound.completes_of_set (sound : state.Sound) {x : Fin 16}
    (committed : state.committed? = some (timer.set x)) : state.completes = true :=
  sound.completes_of_committed committed fun y isWait => by cases timer <;> cases isWait

/-- A timer is read before it counts. -/
theorem Sound.step_of_readDelay (sound : state.Sound) {x : Fin 16}
    (committed : state.committed? = some (.readDelay x)) :
    state.step.register x = state.delayTimer ∧
      state.step.delayTimer.toNat = state.delayTimer.toNat - 1 := by
  have stored : (state.clearReports.executedWith Edge.last).registers =
      putCell state.registers x state.delayTimer := by
    rw [executedWith, fetchedInstruction_clearReports, sound.read_of_committed committed]
    rfl
  have completed := sound.completes_of_committed committed fun y isWait => by cases isWait
  have unset : state.setsFrom? .delay = none := by
    rw [setsFrom?, committed]
    rfl
  constructor
  · rw [step_of_committed committed, tickIfRunning_eq, register, stored, cellAt_putCell, if_pos rfl]
  · have counted := sound.timer_of_completes completed .delay
    rwa [timerSet_of_none unset] at counted

end State

namespace Machine

variable {machine : Machine} {timer : Timer}

/-! ## Timers that are not set -/

/-- No step of a run sets the timer. -/
def NeverSets (machine : Machine) (timer : Timer) (commands : List Command) : Prop :=
  ∀ stepped ∈ machine.steppedFrom commands, ∀ x, stepped.committed? ≠ some (timer.set x)

theorem neverSets_append (first second : List Command) :
    machine.NeverSets timer (first ++ second) ↔
      machine.NeverSets timer first ∧ (machine.after first).NeverSets timer second :=
  forall_steppedFrom_append first second

theorem neverSets_cons (command : Command) (rest : List Command) :
    machine.NeverSets timer (command :: rest) ↔
      machine.NeverSets timer [command] ∧ (machine.obey command).machine.NeverSets timer rest :=
  neverSets_append [command] rest

theorem timerSet_of_neverSets (unset : machine.NeverSets timer [.step]) :
    machine.state.timerSet timer = machine.state.timer timer :=
  State.timerSet_of_none (State.setsFrom?_eq_none_iff.mpr (unset _ List.mem_cons_self))

/-- Apart from steps only a reset changes a timer. -/
theorem timer_obey_of_ne {command : Command} (notStep : command ≠ .step) (kept : command ≠ .reset) :
    (machine.obey command).machine.state.timer timer = machine.state.timer timer := by
  rw [obey_state_of_ne _ notStep kept]
  rfl

/-- An operation other than a reset counts a timer as often as it completes a step. -/
theorem timer_obey (sound : machine.state.Sound) {command : Command} (kept : command ≠ .reset)
    (unset : machine.NeverSets timer [command]) :
    ((machine.obey command).machine.state.timer timer).toNat =
      (machine.state.timer timer).toNat - machine.completedSteps [command] := by
  rw [completedSteps_singleton]
  by_cases isStep : command = .step
  · subst isStep
    rw [Sound.obey_step sound]
    cases completed : machine.state.completes with
    | true =>
      rw [sound.timer_of_completes completed, timerSet_of_neverSets unset]
      simp
    | false =>
      rw [sound.timer_of_not_completes completed]
      simp
  · rw [timer_obey_of_ne isStep kept]
    simp [isStep]

/-- A timer that is not set tells how many steps were completed. -/
theorem timer_after (sound : machine.state.Sound) {commands : List Command}
    (kept : .reset ∉ commands) (unset : machine.NeverSets timer commands) :
    ((machine.after commands).state.timer timer).toNat =
      (machine.state.timer timer).toNat - machine.completedSteps commands := by
  induction commands generalizing machine with
  | nil => rfl
  | cons command rest ih =>
    rw [List.mem_cons, not_or] at kept
    obtain ⟨unsetFirst, unsetRest⟩ := (neverSets_cons command rest).mp unset
    rw [after_cons, ih (Sound.obey sound command) kept.2 unsetRest,
      timer_obey sound (Ne.symm kept.1) unsetFirst, completedSteps_cons command rest, Nat.sub_sub]

/-! ## Timers at zero -/

/-- The steps of a run set the timer to zero, if they set it. -/
def OnlyStops (machine : Machine) (timer : Timer) (commands : List Command) : Prop :=
  ∀ stepped ∈ machine.steppedFrom commands, ∀ x,
    stepped.committed? = some (timer.set x) → stepped.register x = 0

theorem onlyStops_append (first second : List Command) :
    machine.OnlyStops timer (first ++ second) ↔
      machine.OnlyStops timer first ∧ (machine.after first).OnlyStops timer second :=
  forall_steppedFrom_append first second

theorem timerSet_of_onlyStops (stopped : machine.state.timer timer = 0)
    (stops : machine.OnlyStops timer [.step]) : machine.state.timerSet timer = 0 := by
  cases sets : machine.state.setsFrom? timer with
  | none => rw [State.timerSet_of_none sets, stopped]
  | some x =>
    have committed := State.setsFrom?_eq_some_iff.mp sets
    rw [State.timerSet_of_committed committed, stops _ List.mem_cons_self x committed]

theorem stopped_obey (sound : machine.state.Sound) (stopped : machine.state.timer timer = 0)
    {command : Command} (stops : machine.OnlyStops timer [command]) :
    (machine.obey command).machine.state.timer timer = 0 := by
  by_cases isStep : command = .step
  · subst isStep
    rw [Sound.obey_step sound]
    cases completed : machine.state.completes with
    | true =>
      rw [← UInt8.toNat_inj, sound.timer_of_completes completed,
        timerSet_of_onlyStops stopped stops]
      rfl
    | false => rw [sound.timer_of_not_completes completed, stopped]
  · by_cases isReset : command = .reset
    · subst isReset
      cases timer <;> rfl
    · rw [timer_obey_of_ne isStep isReset, stopped]

/-- A timer at zero stays there until a step sets it to another value. -/
theorem stopped_after (sound : machine.state.Sound) (stopped : machine.state.timer timer = 0)
    {commands : List Command} (stops : machine.OnlyStops timer commands) :
    (machine.after commands).state.timer timer = 0 := by
  induction commands generalizing machine with
  | nil => exact stopped
  | cons command rest ih =>
    obtain ⟨first, later⟩ := (onlyStops_append [command] rest).mp stops
    exact ih (Sound.obey sound command) (stopped_obey sound stopped first) later

end Machine

end Chip8
