import Chip8.Machine.Statistics
import Chip8.Proofs.Events
import Mathlib.Data.List.DropRight

/-!
# Statistics and the run that they count

The statistics of a machine are driven by its events. They account for the states from which steps
were taken since the last reset: each step is counted once, and what it met is counted with it. That
the faults are at most one, and one exactly on a halted machine, is a matter of the whole run.

Results:
1. `Statistics.mem_insertDistinct`, `Statistics.ascending_insertDistinct`: a word that is met.
2. `Sound.countAll_step`: the events of a step amount to `Statistics.countStep`.
3. `Statistics.Accounts.countStep`, `Statistics.Accounts.obey`: what one step and one operation
   preserve.
4. `accounts_reported`, `countP_faults_taken`: the same over a run.
5. `statistics_match_run`: the statistics of whoever is attached to a machine.
-/

namespace Chip8

/-! ## What a step may meet -/

namespace State

/-- A running step passes a word that matches no pattern. -/
def SkipsWord (state : State) : Prop :=
  state.mode = Mode.running ∧ state.Unmatched ∧ state.step.fault = Fault.healthy

/-- A step takes the sound timer from one, where its instruction leaves it, to zero. -/
def Rings (state : State) : Prop :=
  state.timerSet .sound = 1 ∧ state.step.timer .sound = 0

/-- A step records a fault. -/
def Faults (state : State) : Prop :=
  state.step.fault ≠ Fault.healthy

instance (state : State) : Decidable state.SkipsWord :=
  inferInstanceAs (Decidable (_ ∧ _ ∧ _))

instance (state : State) : Decidable state.Rings :=
  inferInstanceAs (Decidable (_ ∧ _))

instance (state : State) : Decidable state.Faults :=
  inferInstanceAs (Decidable (_ ≠ _))

variable {state : State}

/-- A word is skipped exactly if the step notes it. -/
theorem Sound.skipsWord_iff (sound : state.Sound) (healthy : state.fault = Fault.healthy) :
    state.SkipsWord ↔ state.step.unknownOpcode = true := by
  by_cases healthyNext : state.step.fault = Fault.healthy
  · rw [sound.unknownOpcode_step_iff healthy healthyNext]
    exact ⟨fun skips => ⟨skips.1, skips.2.1⟩, fun met => ⟨met.1, met.2, healthyNext⟩⟩
  · have soundNext : state.step.Sound := sound.stepWith Edge.last
    rw [(soundNext.halted healthyNext).1]
    exact ⟨fun skips => absurd skips.2.2 healthyNext, fun noted => absurd noted Bool.false_ne_true⟩

theorem Sound.opcode_of_skipsWord (sound : state.Sound) (healthy : state.fault = Fault.healthy)
    (skips : state.SkipsWord) : state.step.opcode = state.word := by
  obtain ⟨word, committed⟩ := sound.unknownOpcode_step.mp ((sound.skipsWord_iff healthy).mp skips)
  exact (sound.step_of_unknown committed).1

end State

namespace Statistics

/-! ## Words in ascending order -/

theorem mem_insertDistinct {value other : Int} {values : List Int} :
    other ∈ insertDistinct value values ↔ other = value ∨ other ∈ values := by
  induction values with
  | nil => simp [insertDistinct]
  | cons head tail ih =>
    rw [insertDistinct]
    split
    · exact List.mem_cons
    · split
      · next same => simp [same]
      · rw [List.mem_cons, ih, List.mem_cons, or_left_comm]

theorem ascending_insertDistinct {value : Int} {values : List Int}
    (ascending : values.Pairwise (· < ·)) : (insertDistinct value values).Pairwise (· < ·) := by
  induction values with
  | nil => exact List.pairwise_singleton _ value
  | cons head tail ih =>
    obtain ⟨above, ascendingTail⟩ := List.pairwise_cons.mp ascending
    rw [insertDistinct]
    split
    · next below =>
      refine List.pairwise_cons.mpr ⟨fun other inside => ?_, ascending⟩
      rcases List.mem_cons.mp inside with rfl | inTail
      · exact below
      · exact Int.lt_trans below (above other inTail)
    · split
      · exact ascending
      · refine List.pairwise_cons.mpr ⟨fun other inside => ?_, ih ascendingTail⟩
        rcases mem_insertDistinct.mp inside with rfl | inTail
        · omega
        · exact above other inTail

/-! ## The account of several steps -/

/-- What a step from a state adds to statistics. -/
def countStep (statistics : Statistics) (state : State) : Statistics where
  steps := statistics.steps + 1
  unknownOpcodes := statistics.unknownOpcodes + if state.SkipsWord then 1 else 0
  tones := statistics.tones + if state.Rings then 1 else 0
  faults := statistics.faults + if state.Faults then 1 else 0
  distinctOpcodes :=
    if state.SkipsWord then insertDistinct state.word.toNat statistics.distinctOpcodes
    else statistics.distinctOpcodes

/-- Statistics that count the steps from some states. -/
structure Accounts (statistics : Statistics) (taken : List State) : Prop where
  steps : statistics.steps = taken.length
  unknownOpcodes : statistics.unknownOpcodes = taken.countP State.SkipsWord
  tones : statistics.tones = taken.countP State.Rings
  faults : statistics.faults = taken.countP State.Faults
  ascending : statistics.distinctOpcodes.Pairwise (· < ·)
  distinct : ∀ word, word ∈ statistics.distinctOpcodes ↔
    ∃ state ∈ taken, state.SkipsWord ∧ (state.word.toNat : Int) = word

theorem accounts_zero : zero.Accounts [] where
  steps := rfl
  unknownOpcodes := rfl
  tones := rfl
  faults := rfl
  ascending := .nil
  distinct := by simp [zero]

variable {statistics : Statistics} {taken : List State}

theorem Accounts.countStep (accounts : statistics.Accounts taken) (state : State) :
    (statistics.countStep state).Accounts (taken ++ [state]) where
  steps := by
    rw [List.length_append, List.length_singleton, ← accounts.steps]
    rfl
  unknownOpcodes := by
    simp only [Statistics.countStep, List.countP_append, List.countP_singleton,
      accounts.unknownOpcodes, decide_eq_true_eq]
  tones := by
    simp only [Statistics.countStep, List.countP_append, List.countP_singleton, accounts.tones,
      decide_eq_true_eq]
  faults := by
    simp only [Statistics.countStep, List.countP_append, List.countP_singleton, accounts.faults,
      decide_eq_true_eq]
  ascending := by
    unfold Statistics.countStep
    split
    · exact ascending_insertDistinct accounts.ascending
    · exact accounts.ascending
  distinct word := by
    unfold Statistics.countStep
    by_cases skips : state.SkipsWord
    · simp [skips, mem_insertDistinct, accounts.distinct, or_and_right, exists_or, eq_comm, or_comm]
    · simp [skips, accounts.distinct, or_and_right, exists_or]

/-- No word was met exactly if none is counted. -/
theorem Accounts.distinct_eq_nil_iff (accounts : statistics.Accounts taken) :
    statistics.distinctOpcodes = [] ↔ statistics.unknownOpcodes = 0 := by
  rw [accounts.unknownOpcodes, List.countP_eq_zero, List.eq_nil_iff_forall_not_mem]
  simp only [accounts.distinct, decide_eq_true_eq]
  constructor
  · intro none state inside skips
    exact none state.word.toNat ⟨state, inside, skips, rfl⟩
  · rintro none word ⟨state, inside, skips, -⟩
    exact none state inside skips

theorem Accounts.le_steps (accounts : statistics.Accounts taken) :
    statistics.unknownOpcodes ≤ statistics.steps ∧ statistics.tones ≤ statistics.steps ∧
      statistics.faults ≤ statistics.steps := by
  rw [accounts.steps, accounts.unknownOpcodes, accounts.tones, accounts.faults]
  exact ⟨List.countP_le_length, List.countP_le_length, List.countP_le_length⟩

theorem countAll_append (statistics : Statistics) (first second : List Event) :
    statistics.countAll (first ++ second) = (statistics.countAll first).countAll second :=
  List.foldl_append

end Statistics

namespace Machine

variable {machine : Machine} {statistics : Statistics} {earlier : List State}

/-! ## One step and one operation -/

/-- The events of a step amount to what it met. -/
theorem Sound.countAll_step (sound : machine.state.Sound)
    (healthy : machine.state.fault = Fault.healthy) (statistics : Statistics) :
    statistics.countAll machine.step.events = statistics.countStep machine.state := by
  have skips := sound.skipsWord_iff healthy
  have rings : machine.state.Rings ↔ machine.state.step.tone = true := sound.tone_step_iff.symm
  by_cases healthyNext : machine.state.step.fault = Fault.healthy
  · have opcode := sound.opcode_of_skipsWord healthy
    rw [step_of_healthy healthy healthyNext]
    simp only [Statistics.countStep, skips, rings] at opcode ⊢
    cases tone : machine.state.step.tone <;> cases noted : machine.state.step.unknownOpcode <;>
      simp_all [Statistics.countAll, Statistics.count, State.Faults]
  -- A step that faults takes back its reports, so that only the fault is counted with it.
  · have soundNext : machine.state.step.Sound := sound.stepWith Edge.last
    obtain ⟨noWord, noTone⟩ := soundNext.halted healthyNext
    rw [step_of_faulted healthy healthyNext]
    simp [Statistics.countAll, Statistics.count, Statistics.countStep, skips, rings, noWord, noTone,
      State.Faults, healthyNext, haltEvent]

/-- The states from which an operation takes a step: a halted machine takes none. -/
def taken (machine : Machine) (command : Command) : List State :=
  if command = .step ∧ machine.state.fault = Fault.healthy then [machine.state] else []

/-- An operation keeps the account of the steps since the last reset. -/
theorem accounts_obey (sound : machine.state.Sound) (accounts : statistics.Accounts earlier)
    (command : Command) :
    (statistics.countAll (machine.obey command).events).Accounts
      (if command = .reset then [] else earlier ++ machine.taken command) := by
  rw [obey_events]
  cases command with
  | reset => exact Statistics.accounts_zero
  | step =>
    by_cases healthy : machine.state.fault = Fault.healthy
    · simp only [taken, healthy]
      rw [Sound.countAll_step sound healthy]
      exact accounts.countStep machine.state
    · rw [step_of_halted (isHalted_iff.mpr healthy)]
      simpa [taken, healthy, Statistics.countAll] using accounts
  | load program =>
    have unmoved : statistics.countAll
        (if programCapacity < program.size then [] else [.loaded program.size]) = statistics := by
      split <;> rfl
    simpa [taken, unmoved] using accounts
  | keyDown | keyUp | displayDirty | readDisplay | soundActive =>
    simpa [taken, Statistics.countAll] using accounts

/-- Short of a reset a machine is halted if it was so before, or else by a step that is taken. -/
theorem countP_faults_obey {command : Command} (kept : command ≠ .reset) :
    (if machine.isHalted then 1 else 0) + (machine.taken command).countP State.Faults =
      if (machine.obey command).machine.isHalted then 1 else 0 := by
  by_cases halted : machine.isHalted = true
  · have none : machine.taken command = [] :=
      if_neg fun taken => isHalted_iff.mp halted taken.2
    rw [none, if_pos halted, if_pos (obey_of_halted halted kept).1]
    rfl
  · have healthy : machine.state.fault = Fault.healthy := by
      simpa [isHalted_iff] using halted
    by_cases isStep : command = .step
    · have taken : machine.taken command = [machine.state] := if_pos ⟨isStep, healthy⟩
      have stepped : (machine.obey command).machine.isHalted = true ↔ machine.state.Faults := by
        rw [isStep, isHalted_iff]
        exact not_congr (by rw [show (machine.obey .step).machine.state = machine.state.step from
          step_machine_of_healthy healthy])
      rw [taken, if_neg halted, Nat.zero_add, List.countP_singleton]
      simp only [stepped, decide_eq_true_eq]
    · have same : (machine.obey command).machine.isHalted = machine.isHalted := by
        rw [isHalted, isHalted, obey_state_of_ne _ isStep kept]
      simp [taken, isStep, same]

/-! ## Runs -/

/-- The states from which steps were taken since the last reset, in order. -/
def takenSinceReset (machine : Machine) (commands : List Command) : List State :=
  ((machine.after (commands.rdropWhile (· ≠ .reset))).steppedFrom
    (commands.rtakeWhile (· ≠ .reset))).filter (·.fault = Fault.healthy)

theorem takenSinceReset_concat (commands : List Command) (command : Command) :
    machine.takenSinceReset (commands ++ [command]) =
      if command = .reset then []
      else machine.takenSinceReset commands ++ (machine.after commands).taken command := by
  by_cases isReset : command = .reset
  · simp [takenSinceReset, isReset, steppedFrom]
  · have whole : (machine.after (commands.rdropWhile (· ≠ .reset))).after
        (commands.rtakeWhile (· ≠ .reset)) = machine.after commands := by
      rw [← after_append, List.rdropWhile_append_rtakeWhile]
    have kept : decide (command ≠ .reset) = true := decide_eq_true isReset
    rw [takenSinceReset, List.rdropWhile_concat, List.rtakeWhile_concat, if_pos kept, if_pos kept,
      steppedFrom_append, List.filter_append, whole, if_neg isReset, takenSinceReset, taken]
    by_cases isStep : command = .step <;> simp [steppedFrom, isStep, List.filter_cons]

/-- The statistics of a run account for the steps since its last reset. -/
theorem accounts_reported (sound : machine.state.Sound) (commands : List Command) :
    (Statistics.zero.countAll (machine.reported commands)).Accounts
      (machine.takenSinceReset commands) := by
  -- The operations are taken from the last one back, as the steps since a reset are.
  induction commands using List.reverseRecOn with
  | nil => exact Statistics.accounts_zero
  | append_singleton commands command ih =>
    have events : (machine.after commands).reported [command] =
        ((machine.after commands).obey command).events := List.append_nil _
    rw [reported_append, Statistics.countAll_append, events, takenSinceReset_concat]
    exact accounts_obey (sound_after sound commands) ih command

/-- A step that is taken since the last reset records a fault exactly if the machine is halted, and
there is one such step at most. -/
theorem countP_faults_taken (healthy : machine.state.fault = Fault.healthy)
    (commands : List Command) :
    (machine.takenSinceReset commands).countP State.Faults =
      if (machine.after commands).isHalted then 1 else 0 := by
  induction commands using List.reverseRecOn with
  | nil => simp [takenSinceReset, steppedFrom, after, isHalted, healthy]
  | append_singleton commands command ih =>
    have last : machine.after (commands ++ [command]) =
        ((machine.after commands).obey command).machine := after_append commands [command]
    rw [takenSinceReset_concat, last]
    by_cases isReset : command = .reset
    · rw [isReset]
      rfl
    · rw [if_neg isReset, List.countP_append, ih, countP_faults_obey isReset]

end Machine

/-- Statistics match the run. Whatever is asked of a machine, one that is attached to it once and counts
its events reports the steps that were taken since the last reset, which are those asked for while no
fault was recorded; how many of them passed an unknown word, strictly or not, and how many took the sound
timer from one to zero; one fault if the machine is halted and none otherwise; and the words that were
passed, each once and in ascending order. -/
theorem statistics_match_run {Name : Type} [DecidableEq Name] {watchers : List Name} {counter : Name}
    (attached : watchers.count counter = 1) (random : RandomKey) (strict : Bool)
    (commands : List Machine.Command) :
    let machine := Machine.fresh random strict
    let taken := machine.takenSinceReset commands
    let statistics :=
      Statistics.zero.countAll (received counter (Watched.told ⟨machine, watchers⟩ commands))
    statistics.steps = taken.length ∧
    statistics.unknownOpcodes = taken.countP State.SkipsWord ∧
    statistics.tones = taken.countP State.Rings ∧
    statistics.faults = (if (machine.after commands).isHalted then 1 else 0) ∧
    statistics.distinctOpcodes.Pairwise (· < ·) ∧
    (∀ word, word ∈ statistics.distinctOpcodes ↔
      ∃ state ∈ taken, state.SkipsWord ∧ (state.word.toNat : Int) = word) ∧
    (statistics.unknownOpcodes ≤ statistics.steps ∧ statistics.tones ≤ statistics.steps ∧
      statistics.faults ≤ statistics.steps) ∧
    (statistics.distinctOpcodes = [] ↔ statistics.unknownOpcodes = 0) := by
  intro machine taken statistics
  have sound : machine.state.Sound := State.sound_initial random
  have healthy : machine.state.fault = Fault.healthy := rfl
  have heard : received counter (Watched.told ⟨machine, watchers⟩ commands) =
      machine.reported commands := by
    rw [Watched.told_eq]
    exact received_of_once attached (machine.reported commands)
  have accounts : statistics.Accounts taken := by
    have counted := Machine.accounts_reported sound commands
    rwa [← heard] at counted
  have faults := Machine.countP_faults_taken healthy commands
  exact ⟨accounts.steps, accounts.unknownOpcodes, accounts.tones, accounts.faults.trans faults,
    accounts.ascending, accounts.distinct, accounts.le_steps, accounts.distinct_eq_nil_iff⟩

/-- A host that lets a machine pass an unknown word, resets it and runs a program that sounds the timer
over another unknown word, waits for a key, passes a third one and returns from no call. The step behind
that is not taken. -/
def Machine.countedRun : List Machine.Command := [
  .load #[0x50, 0x0F], .step, .reset,
  .load #[0x60, 0x02, 0xF0, 0x18, 0x50, 0x01, 0xF0, 0x0A, 0x00, 0x01, 0x00, 0xEE],
  .step, .step, .step, .step, .step, .keyDown 3, .step, .readDisplay, .step, .step, .step]

/-- Two watchers, of whom the second one counts a strict machine. -/
theorem statistics_match_run_counted :
    [4, 7].count 7 = 1 ∧
    ((Machine.fresh ⟨0, 0⟩ true).after Machine.countedRun).isHalted = true ∧
    let statistics := Statistics.zero.countAll
      (received 7 (Watched.told ⟨Machine.fresh ⟨0, 0⟩ true, [4, 7]⟩ Machine.countedRun))
    statistics.steps = 8 ∧ statistics.unknownOpcodes = 2 ∧ statistics.tones = 1 ∧
    statistics.faults = 1 ∧ 0x5001 ∈ statistics.distinctOpcodes ∧
    0x500F ∉ statistics.distinctOpcodes ∧ statistics.distinctOpcodes.Pairwise (· < ·) := by
  have attached : [4, 7].count 7 = 1 := by decide
  obtain ⟨halted, taken, skipped, rung, met, unmet⟩ :
      ((Machine.fresh ⟨0, 0⟩ true).after Machine.countedRun).isHalted = true ∧
      let taken := (Machine.fresh ⟨0, 0⟩ true).takenSinceReset Machine.countedRun
      taken.length = 8 ∧ taken.countP State.SkipsWord = 2 ∧ taken.countP State.Rings = 1 ∧
      (∃ state ∈ taken, state.SkipsWord ∧ (state.word.toNat : Int) = 0x5001) ∧
      ¬ ∃ state ∈ taken, state.SkipsWord ∧ (state.word.toNat : Int) = 0x500F := by
    decide +kernel
  obtain ⟨steps, unknownOpcodes, tones, faults, ascending, distinct, -, -⟩ :=
    statistics_match_run attached ⟨0, 0⟩ true Machine.countedRun
  rw [if_pos halted] at faults
  exact ⟨attached, halted, steps.trans taken, unknownOpcodes.trans skipped, tones.trans rung, faults,
    (distinct 0x5001).mpr met, mt (distinct 0x500F).mp unmet, ascending⟩

end Chip8
