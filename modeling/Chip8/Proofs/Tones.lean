import Chip8.Proofs.Halting
import Chip8.Proofs.Timers

/-!
# When the sound timer rings

The tone is reported by the completed step that counts the sound timer down from one. So a sound
timer that was set rings once if it is left alone for so many completed steps, and does not ring
again before it is set again.

Results:
1. `Sound.tone_step`, `Sound.tones_obey`: the tone of one step and of one operation.
2. `tones_at`, `tones_after`: when and how often a sound timer rings that is not set.
3. `tones_at_set`, `tones_after_set`: the same from the step that sets it on.
4. `set_between_tones`: what lies between two tones.
5. `timers_accounted`: the account of the timers over a run.
-/

namespace Chip8

/-- The report of a tone. -/
def Event.isTone : Event → Bool
  | .tone => true
  | _ => false

namespace State

variable {state : State}

/-- The tone is reported by a completed step that finds the sound timer at one. -/
theorem Sound.tone_step (sound : state.Sound) :
    state.step.tone = (state.completes && state.timerSet .sound == 1) := by
  cases sound.stepOutcome with
  | kept _ committed _ result =>
    have soundTimer :
        (state.clearReports.executedWith Edge.last).soundTimer = state.timerSet .sound :=
      sound.executedWith_timer committed .sound
    cases completed : state.completes with
    | true =>
      have running := (completes_iff_of_committed committed).mp completed
      rw [result, tickIfRunning_of_running running, ← soundTimer]
      rfl
    | false =>
      have waiting := mt (completes_iff_of_committed committed).mpr (Bool.eq_false_iff.mp completed)
      rw [result, tickIfRunning_of_waiting waiting, executedWith_tone]
      rfl
  | resolved key committed completed result =>
    rw [completed, timerSet_of_none (setsFrom?_of_committed_none committed), result]
    rfl
  | idle _ unfinished result | discarded _ _ unfinished result =>
    rw [unfinished, result]
    rfl

end State

namespace Machine

variable {machine : Machine} {timer : Timer}

/-! ## Tones of an operation -/

/-- How often an operation reports a tone. -/
def Outcome.tones {α : Type} (outcome : Outcome α) : Nat :=
  outcome.events.countP Event.isTone

/-- How often a run reports a tone. -/
def tones (machine : Machine) (commands : List Command) : Nat :=
  (machine.reported commands).countP Event.isTone

theorem tones_cons (command : Command) (rest : List Command) :
    machine.tones (command :: rest) =
      (machine.obey command).tones + (machine.obey command).machine.tones rest := by
  rw [tones, reported_cons, List.countP_append]
  rfl

/-- A host hears the tone of a step exactly if its state reports one. -/
theorem Sound.tones_step (sound : machine.state.Sound) :
    (machine.obey .step).tones = if machine.state.step.tone then 1 else 0 := by
  have reports : (machine.obey .step).tones = machine.step.events.countP Event.isTone := rfl
  rw [reports]
  by_cases halted : machine.isHalted = true
  -- A halted machine takes no step, and a step of its state would be silent.
  · have result : machine.state.step = machine.state.clearReports :=
      State.stepWith_of_fault _ _ (isHalted_iff.mp halted)
    rw [step_of_halted halted, result]
    rfl
  · have healthy : machine.state.fault = Fault.healthy := by
      simpa [isHalted_iff] using halted
    by_cases healthyNext : machine.state.step.fault = Fault.healthy
    · simp only [step, isHalted, healthy, healthyNext, bne_self_eq_false, Bool.false_eq_true,
        if_false]
      cases machine.state.step.tone <;> cases machine.state.step.unknownOpcode <;> rfl
    · have soundNext : machine.state.step.Sound := sound.stepWith Edge.last
      rw [step_of_faulted healthy healthyNext, (soundNext.halted healthyNext).2]
      rfl

/-- Only a step that is completed on a sound timer at one reports a tone, and reports it once. -/
theorem Sound.tones_obey (sound : machine.state.Sound) (command : Command) :
    (machine.obey command).tones =
      if command = .step ∧ machine.state.completes ∧ machine.state.timerSet .sound = 1 then 1
      else 0 := by
  cases command with
  | step =>
    rw [Sound.tones_step sound, sound.tone_step]
    simp
  | load program =>
    have silent : (machine.load program).events.countP Event.isTone = 0 := by
      unfold load
      split <;> rfl
    exact silent
  | keyDown key | keyUp key =>
    have silent (down : Bool) : (machine.setKey key down).events.countP Event.isTone = 0 := by
      unfold setKey
      split <;> rfl
    exact silent _
  | reset | displayDirty | readDisplay | soundActive => rfl

/-! ## Tones of a run -/

/-- An operation that does not set the sound timer rings if it counts the timer down from one. -/
theorem tones_of_neverSets (sound : machine.state.Sound) {command : Command}
    (unset : machine.NeverSets .sound [command]) :
    (machine.obey command).tones =
      if (command = .step ∧ machine.state.completes) ∧ (machine.state.timer .sound).toNat = 1 then 1
      else 0 := by
  rw [Sound.tones_obey sound]
  by_cases isStep : command = .step
  · subst isStep
    simp only [timerSet_of_neverSets unset, toNat_eq_one_iff, and_assoc]
  · simp only [isStep, false_and]

/-- A sound timer that is not set rings at the completed step that runs it out. -/
theorem tones_at (sound : machine.state.Sound) {before rest : List Command} {command : Command}
    (kept : .reset ∉ before ++ command :: rest)
    (unset : machine.NeverSets .sound (before ++ command :: rest)) :
    ((machine.after before).obey command).tones =
      if (command = .step ∧ (machine.after before).state.completes) ∧
          machine.completedSteps before + 1 = (machine.state.timer .sound).toNat then 1
      else 0 := by
  obtain ⟨unsetBefore, unsetBehind⟩ := (neverSets_append _ _).mp unset
  have shown := timer_after sound (fun reset => kept (List.mem_append_left _ reset)) unsetBefore
  have last : ((machine.after before).state.timer .sound).toNat = 1 ↔
      machine.completedSteps before + 1 = (machine.state.timer .sound).toNat := by
    rw [shown]
    omega
  rw [tones_of_neverSets (sound_after sound before) ((neverSets_cons _ _).mp unsetBehind).1]
  simp only [last]

/-- A sound timer that is not set rings once, if so many steps are completed. -/
theorem tones_after (sound : machine.state.Sound) {commands : List Command}
    (kept : .reset ∉ commands) (unset : machine.NeverSets .sound commands) :
    machine.tones commands =
      if 0 < (machine.state.timer .sound).toNat ∧
          (machine.state.timer .sound).toNat ≤ machine.completedSteps commands then 1
      else 0 := by
  induction commands generalizing machine with
  | nil =>
    rw [if_neg fun due => Nat.not_lt.mpr due.2 due.1]
    rfl
  | cons command rest ih =>
    obtain ⟨unsetFirst, unsetRest⟩ := (neverSets_cons command rest).mp unset
    rw [List.mem_cons, not_or] at kept
    rw [tones_cons, ih (Sound.obey sound command) kept.2 unsetRest,
      timer_obey sound (Ne.symm kept.1) unsetFirst, completedSteps_cons command rest,
      tones_of_neverSets sound unsetFirst, completedSteps_singleton]
    -- What is left of the timer and of the completed steps falls together.
    by_cases counts : command = .step ∧ machine.state.completes
    · simp only [counts, and_self, true_and, if_true]
      split_ifs <;> omega
    · simp only [counts, false_and, if_false]
      split_ifs <;> omega

/-! ## From setting the sound timer to its tone -/

/-- The step that sets the sound timer rings itself if it sets it to one. -/
theorem tones_of_set (sound : machine.state.Sound) {x : Fin 16}
    (committed : machine.state.committed? = some (Timer.sound.set x)) :
    (machine.obey .step).tones = if (machine.state.register x).toNat = 1 then 1 else 0 := by
  rw [Sound.tones_obey sound, State.timerSet_of_committed committed]
  simp only [sound.completes_of_set committed, toNat_eq_one_iff, true_and]

/-- The timer behind the step that sets it. -/
theorem timer_of_set (sound : machine.state.Sound) {x : Fin 16}
    (committed : machine.state.committed? = some (timer.set x)) :
    ((machine.obey .step).machine.state.timer timer).toNat =
      (machine.state.register x).toNat - 1 := by
  rw [Sound.obey_step sound, sound.timer_of_completes (sound.completes_of_set committed),
    State.timerSet_of_committed committed]

theorem completedSteps_of_set (sound : machine.state.Sound) {x : Fin 16}
    (committed : machine.state.committed? = some (timer.set x)) (commands : List Command) :
    machine.completedSteps (.step :: commands) =
      1 + (machine.obey .step).machine.completedSteps commands := by
  rw [completedSteps_cons, completedSteps_singleton,
    if_pos ⟨rfl, sound.completes_of_set committed⟩]

/-- Once set, the sound timer rings once, if so many steps are completed. -/
theorem tones_after_set (sound : machine.state.Sound) {x : Fin 16}
    (committed : machine.state.committed? = some (Timer.sound.set x))
    (positive : 0 < (machine.state.register x).toNat) {commands : List Command}
    (kept : .reset ∉ commands) (unset : (machine.obey .step).machine.NeverSets .sound commands) :
    machine.tones (.step :: commands) =
      if (machine.state.register x).toNat ≤ machine.completedSteps (.step :: commands) then 1
      else 0 := by
  rw [tones_cons, tones_of_set sound committed, tones_after (Sound.obey sound .step) kept unset,
    timer_of_set sound committed, completedSteps_of_set sound committed]
  split_ifs <;> omega

/-- Once set, the sound timer rings at the completed step whose number it was set to, counted from
the step that set it. -/
theorem tones_at_set (sound : machine.state.Sound) {x : Fin 16}
    (committed : machine.state.committed? = some (Timer.sound.set x))
    (positive : 0 < (machine.state.register x).toNat) {commands : List Command}
    (kept : .reset ∉ commands) (unset : (machine.obey .step).machine.NeverSets .sound commands)
    {before rest : List Command} {command : Command}
    (split : .step :: commands = before ++ command :: rest) :
    ((machine.after before).obey command).tones =
      if (command = .step ∧ (machine.after before).state.completes) ∧
          machine.completedSteps before + 1 = (machine.state.register x).toNat then 1
      else 0 := by
  cases before with
  | nil =>
    obtain ⟨rfl, -⟩ := List.cons.inj split
    have start : machine.after [] = machine := rfl
    have none : machine.completedSteps [] = 0 := rfl
    rw [start, none, tones_of_set sound committed]
    simp only [sound.completes_of_set committed, and_self, true_and, Nat.zero_add, eq_comm]
  | cons first inner =>
    obtain ⟨rfl, rfl⟩ := List.cons.inj split
    rw [after_cons, tones_at (Sound.obey sound .step) kept unset, timer_of_set sound committed,
      completedSteps_of_set sound committed]
    have due : (machine.obey .step).machine.completedSteps inner + 1 =
          (machine.state.register x).toNat - 1 ↔
        1 + (machine.obey .step).machine.completedSteps inner + 1 =
          (machine.state.register x).toNat := by
      omega
    simp only [due]

/-! ## From one tone to the next -/

theorem Sound.tones_ne_zero_iff (sound : machine.state.Sound) {command : Command} :
    (machine.obey command).tones ≠ 0 ↔
      command = .step ∧ machine.state.completes ∧ machine.state.timerSet .sound = 1 := by
  rw [Sound.tones_obey sound]
  simp

/-- Between two tones the sound timer is set to something else than zero. -/
theorem set_between_tones (sound : machine.state.Sound) {first last : Command}
    {middle : List Command} (rings : (machine.obey first).tones ≠ 0)
    (ringsAgain : ((machine.after (first :: middle)).obey last).tones ≠ 0) :
    ∃ stepped ∈ (machine.obey first).machine.steppedFrom (middle ++ [last]), ∃ x,
      stepped.committed? = some (.setSound x) ∧ stepped.register x ≠ 0 := by
  obtain ⟨rfl, completed, atOne⟩ := (Sound.tones_ne_zero_iff sound).mp rings
  have soundNext := Sound.obey sound .step
  have stopped : (machine.obey .step).machine.state.timer .sound = 0 := by
    rw [Sound.obey_step sound, ← UInt8.toNat_inj, sound.timer_of_completes completed, atOne]
    rfl
  -- Without a step that sets it to a positive number the timer would still be at zero.
  by_contra none
  have stops : (machine.obey .step).machine.OnlyStops .sound (middle ++ [last]) :=
    fun stepped inside x committed => of_not_not fun positive =>
      none ⟨stepped, inside, x, committed, positive⟩
  obtain ⟨stopsMiddle, stopsLast⟩ := (onlyStops_append middle [last]).mp stops
  obtain ⟨rfl, -, atOneAgain⟩ :=
    (Sound.tones_ne_zero_iff (sound_after soundNext middle)).mp ringsAgain
  have atZero := timerSet_of_onlyStops (stopped_after soundNext stopped stopsMiddle) stopsLast
  rw [atZero] at atOneAgain
  cases atOneAgain

end Machine

/-- The account of the timers over a run. A completed step lets both timers count once, behind what
its instruction did to them, and every other step leaves them alone and is silent; a wait counts as
the one step that ends it. So a timer that is not set falls by the number of completed steps and
stops at zero, and a timer that is read shows what it was before it counts. Once the sound timer is
set to a positive number and not set again it rings once, at the completed step of that number, the
step that set it being the first. And between two tones it is set to a positive number. -/
theorem timers_accounted :
    (∀ machine : Machine, machine.state.Reachable →
      let before := machine.state
      let after := (machine.obey .step).machine.state
      (before.completes = true →
        (∀ timer, (after.timer timer).toNat = (before.timerSet timer).toNat - 1) ∧
          (after.tone = true ↔ before.timerSet .sound = 1)) ∧
      (before.completes = false →
        (∀ timer, after.timer timer = before.timer timer) ∧ after.tone = false) ∧
      (machine.obey .step).tones = if after.tone then 1 else 0) ∧
    (∀ state : State, state.Reachable → state.fault = Fault.healthy →
      (state.mode = Mode.awaitingKey ∨ ∃ x, state.committed? = some (.awaitKey x)) →
      (state.completes = true ↔ ∃ key, cellAt state.keypad key = true)) ∧
    (∀ (machine : Machine) (timer : Timer) (commands : List Machine.Command),
      machine.state.Reachable → .reset ∉ commands → machine.NeverSets timer commands →
      ((machine.after commands).state.timer timer).toNat =
        (machine.state.timer timer).toNat - machine.completedSteps commands) ∧
    (∀ (machine : Machine) (x : Fin 16),
      machine.state.Reachable → machine.state.committed? = some (.readDelay x) →
      let after := (machine.obey .step).machine.state
      after.register x = machine.state.delayTimer ∧
        after.delayTimer.toNat = machine.state.delayTimer.toNat - 1) ∧
    (∀ (machine : Machine) (x : Fin 16) (commands : List Machine.Command),
      machine.state.Reachable → machine.state.committed? = some (.setSound x) →
      let due := (machine.state.register x).toNat
      0 < due → .reset ∉ commands → (machine.obey .step).machine.NeverSets .sound commands →
      (machine.tones (.step :: commands) =
        if due ≤ machine.completedSteps (.step :: commands) then 1 else 0) ∧
      ∀ before command rest, .step :: commands = before ++ command :: rest →
        ((machine.after before).obey command).tones =
          if (command = .step ∧ (machine.after before).state.completes) ∧
              machine.completedSteps before + 1 = due then 1
          else 0) ∧
    (∀ (machine : Machine) (first : Machine.Command) (middle : List Machine.Command)
        (last : Machine.Command), machine.state.Reachable →
      (machine.obey first).tones ≠ 0 → ((machine.after (first :: middle)).obey last).tones ≠ 0 →
      ∃ stepped ∈ (machine.obey first).machine.steppedFrom (middle ++ [last]), ∃ x,
        stepped.committed? = some (.setSound x) ∧ stepped.register x ≠ 0) := by
  refine ⟨fun machine reached => ?_, fun state reached => reached.sound.completes_of_wait,
    fun machine timer commands reached => Machine.timer_after reached.sound,
    fun machine x reached committed => ?_, fun machine x commands reached committed => ?_,
    fun machine first middle last reached => Machine.set_between_tones reached.sound⟩
  · have sound := reached.sound
    rw [Machine.Sound.tones_step sound, Machine.Sound.obey_step sound]
    refine ⟨fun completed => ⟨sound.timer_of_completes completed, ?_⟩,
      fun unfinished => ⟨sound.timer_of_not_completes unfinished, ?_⟩, rfl⟩
    · simp [sound.tone_step, completed]
    · simp [sound.tone_step, unfinished]
  · rw [Machine.Sound.obey_step reached.sound]
    exact reached.sound.step_of_readDelay committed
  · intro due positive kept unset
    exact ⟨Machine.tones_after_set reached.sound committed positive kept unset,
      fun before command rest => Machine.tones_at_set reached.sound committed positive kept unset⟩

/-- A machine about to set its sound timer to three, with its delay timer at two. Behind that it
reads the delay timer, waits for a key, sets the sound timer again and goes on in a loop. -/
def Machine.ringing : Machine :=
  (Machine.fresh ⟨0, 0⟩ false).after
    [.load #[0x60, 0x03, 0xF0, 0x15, 0xF0, 0x18, 0xF1, 0x07, 0xF2, 0x0A, 0xF0, 0x18, 0x12, 0x0C],
      .step, .step]

/-- What a host does behind the first step of `Machine.ringing`, until a key is down. -/
def Machine.waitingOut : List Machine.Command :=
  [.step, .step, .step, .keyDown 4]

/-- The tone is due at the third completed step, which is the one that ends the wait: the step that
starts it and the idle one do not count. The next tone follows three steps after, for the second
time that the timer is set. -/
theorem timers_accounted_ringing :
    let atRead := Machine.ringing.after [.step]
    let atWait := Machine.ringing.after [.step, .step]
    let atTone := Machine.ringing.after (.step :: Machine.waitingOut)
    Machine.ringing.state.Reachable ∧
    Machine.ringing.state.committed? = some (.setSound 0) ∧
    atRead.state.committed? = some (.readDelay 1) ∧
    (atRead.obey .step).machine.state.register 1 = 1 ∧
    atWait.state.committed? = some (.awaitKey 2) ∧
    atWait.state.completes = false ∧
    ((Machine.ringing.after
      (.step :: (Machine.waitingOut ++ [.step]))).state.timer .delay).toNat = 0 ∧
    Machine.ringing.tones (.step :: (Machine.waitingOut ++ [.step])) = 1 ∧
    (atTone.obey .step).tones = 1 ∧
    ((atTone.obey .step).machine.state.timer .sound).toNat =
      (atTone.state.timerSet .sound).toNat - 1 ∧
    ∃ stepped ∈ (atTone.obey .step).machine.steppedFrom ([.step, .step] ++ [.step]), ∃ x,
      stepped.committed? = some (.setSound x) ∧ stepped.register x ≠ 0 := by
  intro atRead atWait atTone
  have reached : Machine.ringing.state.Reachable := ⟨_, _, _, rfl⟩
  have reachedRead : atRead.state.Reachable := Machine.reachable_after _ _ _ _
  have reachedWait : atWait.state.Reachable := Machine.reachable_after _ _ _ _
  have reachedTone : atTone.state.Reachable := Machine.reachable_after _ _ _ _
  obtain ⟨sets, three, unset, unsetDelay, allSteps, stepsBefore, running, ends⟩ :
      Machine.ringing.state.committed? = some (.setSound 0) ∧
      (Machine.ringing.state.register 0).toNat = 3 ∧
      (Machine.ringing.obey .step).machine.NeverSets .sound (Machine.waitingOut ++ [.step]) ∧
      Machine.ringing.NeverSets .delay (.step :: (Machine.waitingOut ++ [.step])) ∧
      Machine.ringing.completedSteps (.step :: (Machine.waitingOut ++ [.step])) = 3 ∧
      Machine.ringing.completedSteps (.step :: Machine.waitingOut) = 2 ∧
      (Machine.ringing.state.timer .delay).toNat = 2 ∧ atTone.state.completes = true := by
    unfold Machine.NeverSets
    decide +kernel
  obtain ⟨reads, shown, waits, healthy, allUp, ringsAgain⟩ :
      atRead.state.committed? = some (.readDelay 1) ∧ atRead.state.delayTimer = 1 ∧
      atWait.state.committed? = some (.awaitKey 2) ∧ atWait.state.fault = Fault.healthy ∧
      (¬ ∃ key, cellAt atWait.state.keypad key = true) ∧
      ((atTone.after (.step :: [.step, .step])).obey .step).tones ≠ 0 := by
    decide +kernel
  obtain ⟨eachStep, eachWait, unsetTimer, readTimer, afterSet, betweenTones⟩ := timers_accounted
  obtain ⟨total, single⟩ := afterSet Machine.ringing 0 (Machine.waitingOut ++ [.step]) reached sets
    (by omega) (by decide) unset
  have once := single (.step :: Machine.waitingOut) .step [] rfl
  rw [three, stepsBefore, if_pos ⟨⟨rfl, ends⟩, rfl⟩] at once
  have delay := unsetTimer Machine.ringing .delay _ reached (by decide) unsetDelay
  rw [running, allSteps] at delay
  obtain ⟨ticked, -⟩ := (eachStep atTone reachedTone).1 ends
  have unfinished := mt (eachWait _ reachedWait healthy (.inr ⟨2, waits⟩)).mp allUp
  rw [three, allSteps, if_pos (Nat.le_refl 3)] at total
  exact ⟨reached, sets, reads, (readTimer _ 1 reachedRead reads).1.trans shown, waits,
    Bool.eq_false_iff.mpr unfinished, delay, total, once, ticked .sound,
    betweenTones atTone .step [.step, .step] .step reachedTone (once ▸ Nat.one_ne_zero) ringsAgain⟩

end Chip8
