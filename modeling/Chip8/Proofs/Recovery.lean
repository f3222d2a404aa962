import Chip8.Proofs.Frames
import Mathlib.Data.List.Induction

/-!
# Faults in a session and the way out of them

A fault halts the machine of a session, but not the session: it prints one line about the fault and
pauses. Nothing that a key does then moves the machine, until the key for a restart brings back the
machine that the session began with.

Results:
1. `paused_of_frames`: behind each frame a session whose machine is halted is paused.
2. `step_texts_of_halting`: what is printed for the step that halts the machine.
3. `Stuck.pass`, `stuck_between`: what a halted machine keeps short of a restart, and that nothing
   more is printed.
4. `exists_halting_step`: a machine that is halted was halted by a step, with no restart since.
5. `Begun.restarts`: a restart brings back the machine of the start.
6. `session_recovers`: these together, for a machine that is not strict.
-/

namespace Chip8

namespace Machine

/-- The command builds the state or the memory anew. -/
def Command.rebuilds : Command → Bool
  | .reset | .load _ => true
  | .step | .keyDown _ | .keyUp _ | .displayDirty | .readDisplay | .soundActive => false

/-- A halted machine that is not rebuilt keeps all but its keypad and the mark on its display, and it
reports nothing. -/
theorem obey_of_stuck {machine : Machine} (halted : machine.isHalted = true) {command : Command}
    (kept : command.rebuilds = false) :
    (machine.obey command).machine.state =
        { machine.state with
          keypad := (machine.obey command).machine.state.keypad
          dirty := (machine.obey command).machine.state.dirty } ∧
      (machine.obey command).events = [] := by
  cases command with
  | reset | load => cases kept
  | step =>
    have silent := step_of_halted halted
    rw [obey_state, obey_events, silent, if_pos halted]
    exact ⟨rfl, rfl⟩
  | keyDown key | keyUp key =>
    rw [obey_state, obey_events]
    simp only [setKey_state]
    exact ⟨trivial, trivial⟩
  | displayDirty | readDisplay | soundActive => exact ⟨rfl, rfl⟩

theorem after_of_stuck {machine : Machine} (halted : machine.isHalted = true)
    {commands : List Command} (kept : ∀ command ∈ commands, command.rebuilds = false) :
    (machine.after commands).state =
        { machine.state with
          keypad := (machine.after commands).state.keypad
          dirty := (machine.after commands).state.dirty } ∧
      machine.reported commands = [] := by
  induction commands generalizing machine with
  | nil => exact ⟨rfl, rfl⟩
  | cons command rest ih =>
    rw [List.forall_mem_cons] at kept
    obtain ⟨sameFirst, silentFirst⟩ := obey_of_stuck halted kept.1
    have haltedNext : (machine.obey command).machine.isHalted = true := by
      rw [isHalted_iff, sameFirst]
      exact isHalted_iff.mp halted
    obtain ⟨sameRest, silentRest⟩ := ih haltedNext kept.2
    refine ⟨?_, ?_⟩
    · rw [after_cons, sameRest, sameFirst]
    · rw [reported_cons, silentFirst, silentRest]
      rfl

/-- Only a step halts a machine. -/
theorem running_after {machine : Machine} (running : machine.isHalted = false)
    {commands : List Command} (unstepped : .step ∉ commands) :
    (machine.after commands).isHalted = false := by
  induction commands generalizing machine with
  | nil => exact running
  | cons command rest ih =>
    rw [List.mem_cons, not_or] at unstepped
    refine ih ?_ unstepped.2
    rw [isHalted_eq_false_iff] at running ⊢
    by_cases isReset : command = .reset
    · rw [isReset]
      rfl
    · rw [obey_state_of_ne _ (Ne.symm unstepped.1) isReset]
      exact running

end Machine

namespace Session

variable {session : Session}

/-! ## Pauses -/

/-- A step leaves a session paused if it leaves its machine halted. -/
theorem step_paused (sturdy : session.Sturdy)
    (halted : (session.pass .step).session.machine.isHalted = true) :
    (session.pass .step).session.paused = true := by
  rw [pass_session sturdy] at halted ⊢
  simp only [obeying, pausedAfter, asks] at halted ⊢
  cases paused : session.paused with
  | true => rfl
  | false =>
    rw [paused] at halted
    exact halted

theorem draw_kept (sturdy : session.Sturdy) :
    (session.pass .draw).session.paused = session.paused ∧
      (session.pass .draw).session.machine.isHalted = session.machine.isHalted := by
  rw [pass_session sturdy]
  refine ⟨rfl, ?_⟩
  simp only [obeying, asks]
  split <;> rfl

/-- Behind each frame a session whose machine is halted is paused. -/
theorem paused_of_frames {progress : Progress} (sturdy : progress.session.Sturdy)
    {frames : List (List HostEvent)} (some : frames ≠ [])
    (going : (progress.play frames).error = none)
    (halted : (progress.play frames).session.machine.isHalted = true) :
    (progress.play frames).session.paused = true := by
  obtain ⟨phases, ended⟩ := progress.play_last some
  have sturdyBefore := Progress.passAll_sturdy sturdy phases
  rw [ended] at going halted ⊢
  have goingStep := Progress.going_of_andThen going
  have goingBefore := Progress.going_of_andThen goingStep
  rw [Progress.andThen_of_none goingStep] at halted ⊢
  rw [Progress.andThen_of_none goingBefore] at halted ⊢
  obtain ⟨samePause, sameHalt⟩ :=
    draw_kept (sturdyBefore.of_leads (pass_leads sturdyBefore .step))
  rw [sameHalt] at halted
  rw [samePause]
  exact step_paused sturdyBefore halted

/-! ## What is printed -/

theorem texts_printed (text : String) :
    (printed text).filterMap Effect.text? = if text = "" then [] else [text] := by
  unfold printed
  split <;> rfl

theorem accepts_error_iff {logger : Log.Logger} :
    logger.accepts .error = true ↔ logger.level ≠ .critical := by
  rw [Log.Logger.accepts]
  cases logger.level <;> decide

/-- The line about the fault that halted a machine, so many seconds after the session's logger was
made. -/
def faultLine (coloured : Bool) (seconds : Float) (state : State) : String :=
  "[" ++ String.ofList (Text.padLeft 8 (Text.fixed 2 seconds)) ++ "s]" ++
    (if coloured then "\x1b[31m[   ERROR]\x1b[0m" else "[   ERROR]") ++
    "[chip8] Machine halted: " ++ Fault.describe state.fault.toNat ++
    " (opcode 0x" ++ Text.hexadecimal 4 state.opcode.toNat ++
    " at 0x" ++ Text.hexadecimal 3 state.pc.toNat ++ "); reset required\n"

theorem faultLine_ne_empty (coloured : Bool) (seconds : Float) (state : State) :
    faultLine coloured seconds state ≠ "" := by
  simp [faultLine]

theorem badge_error (logger : Log.Logger) :
    logger.badge .error =
      if logger.colours then "\x1b[31m[   ERROR]\x1b[0m" else "[   ERROR]" := by
  have plain : "[" ++ String.ofList (Text.padLeft 8 Log.Level.error.name.toList) ++ "]" =
      "[   ERROR]" := by
    decide
  have coloured : "\x1b[31m[   ERROR]\x1b[0m" =
      "\x1b[" ++ "31" ++ "m" ++ "[   ERROR]" ++ "\x1b[0m" := by
    simp
  rw [Log.Logger.badge, plain, coloured]
  rfl

/-- What a logger of a session prints for a fault, unless its level shows no errors. -/
theorem log_fault {logger : Log.Logger} (named : logger.name = "chip8")
    (timestamps : logger.timestamps = true) (loud : logger.level ≠ .critical) (clock : Log.Clock)
    (state : State) :
    (logger.log clock .error ("Machine halted: " ++ (Machine.haltFailure state).message)).1 =
      faultLine logger.colours (clock.read.1 - logger.start) state := by
  have title : "[chip8] Machine halted: " = "[" ++ "chip8" ++ "] " ++ "Machine halted: " := by
    simp
  have opening : " (opcode 0x" = " (opcode " ++ "0x" := by simp
  have ending : "); reset required\n" = "); reset required" ++ "\n" := by simp
  have printed (text : String) : (logger.log clock .error text).1 =
      logger.stamp clock.read.1 ++ logger.body .error text := by
    rw [Log.Logger.log, if_pos (accepts_error_iff.mpr loud), if_pos timestamps]
  rw [printed]
  unfold faultLine Log.Logger.stamp Log.Logger.body Machine.haltFailure Failure.message wordAndAddress
  -- What the clock shows is the same on both sides, and nothing is to be computed of it.
  generalize String.ofList (Text.padLeft 8 (Text.fixed 2 (clock.read.1 - logger.start))) = time
  simp only [badge_error, named]
  simp only [title, opening, ending]
  simp only [String.append_assoc]

/-- A step that faults prints a line about it, and nothing on the level that shows no errors. -/
theorem texts_of_fault {logger : Log.Logger} (named : logger.name = "chip8")
    (timestamps : logger.timestamps = true) (clock : Log.Clock) (state : State) :
    (announceAll logger clock [.stepped state, Machine.haltEvent state]).1.filterMap Effect.text? =
      if logger.level = .critical then []
      else [faultLine logger.colours (clock.read.1 - logger.start) state] := by
  let text := "Machine halted: " ++ (Machine.haltFailure state).message
  have quiet : announce logger clock (.stepped state) = ([], clock) := rfl
  have loud : (announce logger clock (Machine.haltEvent state)).1 =
      printed (logger.log clock .error text).1 ++ [] := rfl
  have announced : (announceAll logger clock [.stepped state, Machine.haltEvent state]).1 =
      printed (logger.log clock .error text).1 := by
    rw [← List.singleton_append, announceAll_append, announceAll_singleton, quiet,
      announceAll_singleton, loud, List.nil_append, List.append_nil]
  rw [announced, texts_printed]
  by_cases critical : logger.level = .critical
  · have refused : ¬logger.accepts .error = true := fun accepts =>
      accepts_error_iff.mp accepts critical
    rw [Log.Logger.log, if_neg refused, if_pos critical]
    rfl
  · rw [log_fault named timestamps critical, if_neg (faultLine_ne_empty _ _ _), if_neg critical]

/-- A step that halts the machine prints the line about the fault. -/
theorem step_texts_of_halting (sturdy : session.Sturdy) (named : session.logger.name = "chip8")
    (timestamps : session.logger.timestamps = true) (running : session.machine.isHalted = false)
    (halted : (session.pass .step).session.machine.isHalted = true) :
    (session.pass .step).effects.filterMap Effect.text? =
      if session.logger.level = .critical then []
      else [faultLine session.logger.colours (session.clock.read.1 - session.logger.start)
        (session.pass .step).session.machine.state] := by
  have machine := (pass_leads sturdy .step).machine
  have unpaused : session.paused = false := by
    by_contra paused
    rw [machine, asks, if_pos (by simpa using paused)] at halted
    cases running.symm.trans halted
  have asked : session.asks .step = [.step] := by rw [asks, unpaused]; rfl
  have stepped : (session.pass .step).session.machine = session.machine.step.machine := by
    rw [machine, asked]
    rfl
  have healthy := Machine.isHalted_eq_false_iff.mp running
  have state := Machine.step_machine_of_healthy healthy
  have faulted : session.machine.state.step.fault ≠ Fault.healthy := by
    rw [← state, ← stepped]
    exact Machine.isHalted_iff.mp halted
  have reported : session.machine.reported [.step] =
      [.stepped session.machine.state.step, Machine.haltEvent session.machine.state.step] := by
    have events : (session.machine.obey .step).events = session.machine.step.events := rfl
    rw [Machine.reported_cons, events, Machine.step_of_faulted healthy faulted]
    rfl
  rw [pass_effects sturdy, asked, reported, stepped, state]
  exact texts_of_fault named timestamps _ _

/-- A phase in which the machine reports nothing prints nothing. -/
theorem texts_of_silent (sturdy : session.Sturdy) {phase : Phase}
    (silent : session.machine.reported (session.asks phase) = []) :
    (session.pass phase).effects.filterMap Effect.text? = [] := by
  rw [pass_effects sturdy, silent]
  cases phase with
  | tick | handle | step => rfl
  | draw =>
    obtain ⟨effects, drawn, rfl | ⟨surface, rfl⟩⟩ := pass_draw sturdy <;>
      simp [drawn, Effect.text?]

/-! ## From a fault to a restart -/

theorem kept_of_ne_restart {phase : Phase} (noRestart : phase ≠ .handle (.keyDown .f5)) :
    ∀ command ∈ session.asks phase, command.rebuilds = false := by
  intro command member
  cases asked_of_mem member with
  | reset | load => exact absurd rfl noRestart
  | step | draw | keyDown | keyUp => rfl

theorem unstepped_of_ne_step {phase : Phase} (notStep : phase ≠ .step) :
    .step ∉ session.asks phase := by
  intro member
  cases asked_of_mem member
  exact notStep rfl

/-- Since the machine was halted it kept all but its keypad and the mark on its display, and nothing
was printed. -/
structure Stuck (halted now : Progress) : Prop where
  state : now.session.machine.state =
    { halted.session.machine.state with
      keypad := now.session.machine.state.keypad
      dirty := now.session.machine.state.dirty }
  silent : ∃ since, now.effects = halted.effects ++ since ∧ since.filterMap Effect.text? = []

theorem Stuck.refl (halted : Progress) : Stuck halted halted :=
  ⟨rfl, [], by simp, rfl⟩

theorem Stuck.isHalted {halted now : Progress} (stuck : Stuck halted now)
    (isHalted : halted.session.machine.isHalted = true) :
    now.session.machine.isHalted = true := by
  rw [Machine.isHalted_iff, stuck.state]
  exact Machine.isHalted_iff.mp isHalted

/-- No phase but a restart gets a halted machine going. -/
theorem Stuck.pass {halted now : Progress} (stuck : Stuck halted now)
    (isHalted : halted.session.machine.isHalted = true) (sturdy : now.session.Sturdy)
    (going : now.error = none) {phase : Phase} (noRestart : phase ≠ .handle (.keyDown .f5)) :
    Stuck halted (now.andThen (·.pass phase)) := by
  obtain ⟨state, silent⟩ :=
    Machine.after_of_stuck (stuck.isHalted isHalted) (kept_of_ne_restart noRestart)
  obtain ⟨since, split, quiet⟩ := stuck.silent
  have leads := pass_leads sturdy phase
  rw [Progress.andThen_of_none going]
  refine ⟨?_, since ++ (now.session.pass phase).effects, ?_, ?_⟩
  · simp only [leads.machine]
    rw [state, stuck.state]
  · rw [split, List.append_assoc]
  · rw [List.filterMap_append, quiet, texts_of_silent sturdy silent, List.append_nil]

theorem Stuck.passAll {halted : Progress} (isHalted : halted.session.machine.isHalted = true)
    (sturdy : halted.session.Sturdy) {phases : List Phase}
    (noRestart : .handle (.keyDown .f5) ∉ phases) : Stuck halted (halted.passAll phases) := by
  refine Progress.passAll_induction (Stuck halted) sturdy phases (.refl halted)
    fun now phase member sturdyNow going stuck => ?_
  have notRestart : phase ≠ .handle (.keyDown .f5) := fun isRestart =>
    noRestart (isRestart ▸ member)
  exact stuck.pass isHalted sturdyNow going notRestart

/-- What has happened between the step that halts a machine and the next restart. -/
theorem stuck_between {progress : Progress} (sturdy : progress.session.Sturdy) {level : Log.Level}
    {coloured : Bool} {made : Float}
    (logger : progress.session.logger = ⟨"chip8", level, coloured, true, made⟩)
    {before between : List Phase}
    (going : (progress.passAll before).error = none)
    (running : (progress.passAll before).session.machine.isHalted = false)
    (isHalted : (progress.passAll (before ++ [.step])).session.machine.isHalted = true)
    (noRestart : .handle (.keyDown .f5) ∉ between) :
    let here := progress.passAll before
    let halted := progress.passAll (before ++ [.step])
    let now := progress.passAll (before ++ .step :: between)
    now.session.machine.state =
        { halted.session.machine.state with
          keypad := now.session.machine.state.keypad
          dirty := now.session.machine.state.dirty } ∧
      ∃ since, now.effects = here.effects ++ since ∧
        since.filterMap Effect.text? =
          if level = .critical then []
          else [faultLine coloured (here.session.clock.read.1 - made)
            halted.session.machine.state] := by
  intro here halted now
  obtain ⟨commands, leads⟩ := Progress.passAll_leads sturdy before
  have sameLogger : here.session.logger = ⟨"chip8", level, coloured, true, made⟩ :=
    leads.logger.trans logger
  have sturdyHere : here.session.Sturdy := sturdy.of_leads leads
  have next : halted =
      ⟨(here.session.pass .step).session, here.effects ++ (here.session.pass .step).effects,
        (here.session.pass .step).error⟩ :=
    (Progress.passAll_append before [.step]).trans (Progress.andThen_of_none going _)
  have later : now = halted.passAll between := by
    rw [← Progress.passAll_append, List.append_assoc]
    rfl
  have stuck : Stuck halted now := by
    rw [later]
    exact Stuck.passAll isHalted (Progress.passAll_sturdy sturdy _) noRestart
  obtain ⟨since, split, quiet⟩ := stuck.silent
  refine ⟨stuck.state, (here.session.pass .step).effects ++ since, ?_, ?_⟩
  · rw [split, next, List.append_assoc]
  · have haltedHere : halted.session.machine.isHalted = true := isHalted
    rw [next] at haltedHere
    rw [List.filterMap_append, quiet, List.append_nil,
      step_texts_of_halting sturdyHere (by rw [sameLogger]) (by rw [sameLogger]) running haltedHere,
      sameLogger, next]

/-- A restart leaves a fresh machine with the program loaded, and the session goes on. -/
theorem restarted (sturdy : session.Sturdy) :
    (session.pass (.handle (.keyDown .f5))).session.machine =
        (Machine.fresh session.machine.random session.machine.strict).after
          [.load session.program] ∧
      (session.pass (.handle (.keyDown .f5))).session.paused = false := by
  rw [pass_session sturdy]
  exact ⟨rfl, rfl⟩

section Begun

variable {options : SessionOptions} {program : Program} {terminal : Bool} {clock : Log.Clock}
  {random : RandomKey} {start : Progress}

theorem Begun.unhalted (begun : Begun options program terminal clock random start) :
    start.session.machine.isHalted = false := by
  have healthy : (Machine.fresh random options.strict).isHalted = false := rfl
  rw [begun.machine]
  exact Machine.running_after healthy (by simp)

/-- The machine's state at the start is that of a fresh machine with the program loaded. -/
theorem Begun.state (begun : Begun options program terminal clock random start)
    (fits : program.size ≤ programCapacity) :
    start.session.machine.state =
      { State.initial random with
        memory := State.initialMemory.write programStart program.toList } := by
  have loaded : ((Machine.fresh random options.strict).after [.load program]).state =
      ((Machine.fresh random options.strict).load program).machine.state := rfl
  rw [begun.machine, loaded, Machine.load_state, if_neg (Nat.not_lt.mpr fits)]
  rfl

/-- A restart brings back the machine of the start. -/
theorem Begun.restarts (begun : Begun options program terminal clock random start)
    (valid : options.Valid program) {phases : List Phase}
    (going : (start.passAll phases).error = none) :
    (start.passAll (phases ++ [.handle (.keyDown .f5)])).session.machine = start.session.machine ∧
      (start.passAll (phases ++ [.handle (.keyDown .f5)])).session.paused = false := by
  have sturdy := begun.sturdy valid
  obtain ⟨commands, leads⟩ := Progress.passAll_leads sturdy phases
  obtain ⟨machine, unpaused⟩ := restarted (Progress.passAll_sturdy sturdy phases)
  have last : start.passAll (phases ++ [.handle (.keyDown .f5)]) =
      (start.passAll phases).andThen (·.pass (.handle (.keyDown .f5))) :=
    Progress.passAll_append _ _
  rw [last, Progress.andThen_of_none going]
  refine ⟨?_, unpaused⟩
  have sameRandom : start.session.machine.random = random := by
    rw [begun.machine, Machine.after_machine]
    rfl
  have sameStrict : start.session.machine.strict = options.strict := by
    rw [begun.machine, Machine.after_machine]
    rfl
  rw [machine, leads.random, leads.strict, leads.program, sameRandom, sameStrict,
    begun.program, begun.machine]

end Begun

/-- A machine that is halted was halted by a step, and there was no restart since. -/
theorem exists_halting_step {progress : Progress} (sturdy : progress.session.Sturdy)
    (running : progress.session.machine.isHalted = false) {phases : List Phase}
    (going : (progress.passAll phases).error = none)
    (halted : (progress.passAll phases).session.machine.isHalted = true) :
    ∃ before between, phases = before ++ .step :: between ∧
      .handle (.keyDown .f5) ∉ between ∧
      (progress.passAll before).session.machine.isHalted = false ∧
      (progress.passAll (before ++ [.step])).session.machine.isHalted = true := by
  induction phases using List.reverseRecOn with
  | nil => cases running.symm.trans halted
  | append_singleton earlier phase ih =>
    have sturdyBefore := Progress.passAll_sturdy sturdy earlier
    have last : progress.passAll (earlier ++ [phase]) =
        (progress.passAll earlier).andThen (·.pass phase) := Progress.passAll_append _ _
    rw [last] at going
    have goingBefore := Progress.going_of_andThen going
    have machine : (progress.passAll (earlier ++ [phase])).session.machine =
        ((progress.passAll earlier).session.pass phase).session.machine := by
      rw [last, Progress.andThen_of_none goingBefore]
    -- Either the machine was halted before, and the last phase is no restart, or that phase halted it.
    cases haltedBefore : (progress.passAll earlier).session.machine.isHalted with
    | true =>
      have notRestart : phase ≠ .handle (.keyDown .f5) := by
        rintro rfl
        rw [machine, (restarted sturdyBefore).1, Machine.running_after rfl (by simp)] at halted
        cases halted
      obtain ⟨before, between, split, noRestart, runs, halts⟩ := ih goingBefore haltedBefore
      refine ⟨before, between ++ [phase], by simp [split], ?_, runs, halts⟩
      simpa [noRestart] using Ne.symm notRestart
    | false =>
      have isStep : phase = .step := by
        by_contra notStep
        rw [machine, (pass_leads sturdyBefore phase).machine,
          Machine.running_after haltedBefore (unstepped_of_ne_step notStep)] at halted
        cases halted
      subst isStep
      exact ⟨earlier, [], rfl, by simp, haltedBefore, halted⟩

end Session

/-- Faults do not end a session, and a restart gets over them. Let the machine not be strict.

* A session never breaks off, and it closes the window once, as the last thing it does.
* Behind each frame a session whose machine is halted is paused.
* A machine that is halted was halted by a step. From this step on to the next restart, whatever else
  happens, nothing of its state changes but the keypad and the mark on the display, and one line is
  printed, which is about the fault; it is left out on the level that shows no errors.
* Behind a restart the machine's state is that of a fresh machine with the program loaded, as it was
  at the start, and the session is not paused. -/
theorem session_recovers (options : SessionOptions) (program : Program) (terminal : Bool)
    (clock : Log.Clock) (valid : options.Valid program) (lenient : options.strict = false) :
    ∃ random level start,
      RandomKey.ofSeed? options.seed = some random ∧
      Log.Level.ofName? options.logLevel = some level ∧
      Session.opened options program terminal clock = .ok start ∧ start.error = none ∧
      (∀ script,
        let ended := start.play (Session.played script)
        ended.error = none ∧ .close ∉ ended.effects ∧
        Session.run options (some program) terminal clock script =
          (ended.effects ++ [.close], none)) ∧
      (∀ frames,
        let now := start.play frames
        now = start.passAll (frames.flatMap Session.phasesOf) ∧ now.error = none ∧
        (frames ≠ [] → now.session.machine.isHalted = true → now.session.paused = true)) ∧
      (∀ phases, (start.passAll phases).session.machine.isHalted = true →
        ∃ before between, phases = before ++ .step :: between ∧
          .handle (.keyDown .f5) ∉ between ∧
          (start.passAll before).session.machine.isHalted = false ∧
          (start.passAll (before ++ [.step])).session.machine.isHalted = true) ∧
      (∀ before between,
        let here := start.passAll before
        let halted := start.passAll (before ++ [.step])
        let now := start.passAll (before ++ .step :: between)
        here.session.machine.isHalted = false → halted.session.machine.isHalted = true →
        .handle (.keyDown .f5) ∉ between →
        now.session.machine.state =
          { halted.session.machine.state with
            keypad := now.session.machine.state.keypad
            dirty := now.session.machine.state.dirty } ∧
        ∃ since, now.effects = here.effects ++ since ∧
          since.filterMap Effect.text? =
            if level = .critical then []
            else [Session.faultLine terminal (here.session.clock.read.1 - clock.read.1)
              halted.session.machine.state]) ∧
      ∀ before,
        let now := start.passAll (before ++ [.handle (.keyDown .f5)])
        now.session.machine.state = start.session.machine.state ∧
        now.session.machine.state =
          { State.initial random with
            memory := State.initialMemory.write programStart program.toList } ∧
        now.session.paused = false := by
  obtain ⟨random, start, seeded, opens, begun⟩ := Session.exists_opened valid terminal clock
  have sturdy := begun.sturdy valid
  have notStrict : start.session.machine.strict = false := by
    rw [begun.machine, Machine.after_machine]
    exact lenient
  have going := fun phases => Session.Progress.passAll_going sturdy notStrict begun.error phases
  refine ⟨random, start.session.logger.level, start, seeded, begun.level, opens, begun.error,
    fun script => ?_, fun frames => ?_, fun phases halted => ?_, fun before between => ?_,
    fun before => ?_⟩
  · have ends : (start.play (Session.played script)).error = none := by
      rw [Session.Progress.play_eq]
      exact going _
    refine ⟨ends, ?_, ?_⟩
    · rw [Session.Progress.play_eq]
      exact Session.Progress.passAll_unclosed sturdy begun.unclosed _
    · rw [Session.run_eq opens sturdy begun.running, Session.Progress.andThen_of_none ends]
      rfl
  · have ends : (start.play frames).error = none := by
      rw [Session.Progress.play_eq]
      exact going _
    exact ⟨start.play_eq frames, ends,
      fun some halted => Session.paused_of_frames sturdy some ends halted⟩
  · exact Session.exists_halting_step sturdy begun.unhalted (going phases) halted
  · intro here halted now running isHalted noRestart
    exact Session.stuck_between sturdy begun.logger (going before) running isHalted noRestart
  · obtain ⟨sameMachine, unpaused⟩ := begun.restarts valid (going before)
    have sameState := congrArg Machine.state sameMachine
    exact ⟨sameState, sameState.trans (begun.state valid.fits), unpaused⟩

/-- A session that prints warnings and errors. -/
def SessionOptions.warning : SessionOptions where
  path := "return.ch8"
  scale := 1
  rate := 60
  seed := 0
  palette := "classic"
  strict := false
  logLevel := "warning"

/-- Returns although no call is open. -/
def returnProgram : Program := #[0x00, 0xEE]

/-- The return halts the machine in the first frame. The pause key gets the session to try once more,
which pauses it again and prints nothing, and a restart brings back the start. -/
theorem session_recovers_return :
    SessionOptions.warning.Valid returnProgram ∧ SessionOptions.warning.strict = false ∧
    ∃ start,
      Session.opened SessionOptions.warning returnProgram true (Log.Clock.still 0) = .ok start ∧
      (start.play [[], [.keyDown .pause]]).session.machine.isHalted = true ∧
      (start.play [[], [.keyDown .pause]]).session.paused = true ∧
      (∃ since,
        (start.passAll [.step, .draw, .handle (.keyDown .pause), .step, .draw]).effects =
          start.effects ++ since ∧
        since.filterMap Effect.text? =
          ["[    0.00s]\x1b[31m[   ERROR]\x1b[0m[chip8] Machine halted: " ++
            "return with empty call stack (opcode 0x00EE at 0x200); reset required\n"]) ∧
      (start.passAll [.step, .draw, .handle (.keyDown .f5)]).session.machine.state =
        start.session.machine.state := by
  have valid : SessionOptions.warning.Valid returnProgram :=
    ⟨by decide, by decide, by decide, by decide, by decide⟩
  obtain ⟨random, level, start, -, named, opens, -, -, frames, -, faults, restarts⟩ :=
    session_recovers SessionOptions.warning returnProgram true (Log.Clock.still 0) valid rfl
  have computed :
      (Session.opened SessionOptions.warning returnProgram true (Log.Clock.still 0)).toOption.any
        (fun start =>
          let stepped := start.passAll [.step]
          decide (start.session.machine.isHalted = false ∧ stepped.session.machine.isHalted = true ∧
            (start.play [[], [.keyDown .pause]]).session.machine.isHalted = true ∧
            Session.faultLine true
                (start.session.clock.read.1 - (Log.Clock.still 0).read.1)
                stepped.session.machine.state =
              "[    0.00s]\x1b[31m[   ERROR]\x1b[0m[chip8] Machine halted: " ++
                "return with empty call stack (opcode 0x00EE at 0x200); reset required\n")) = true := by
    decide +kernel
  rw [opens] at computed
  obtain ⟨running, halts, halted, line⟩ := of_decide_eq_true computed
  have notCritical : level ≠ .critical := by
    rintro rfl
    have warning : Log.Level.ofName? "warning" = some .warning := by decide
    cases warning.symm.trans named
  obtain ⟨-, since, split, texts⟩ :=
    faults [] [.draw, .handle (.keyDown .pause), .step, .draw] running halts (by decide)
  rw [if_neg notCritical] at texts
  exact ⟨valid, rfl, start, opens, halted, (frames _).2.2 (by simp) halted,
    ⟨since, split, texts.trans (congrArg (fun line => [line]) line)⟩, (restarts [.step, .draw]).1⟩

end Chip8
