import Chip8.Machine.Statistics
import Chip8.Machine.Watchers
import Chip8.Proofs.Host

/-!
# A reset erases the past

A reset machine is a fresh one, whatever happened to it before: operations of any kind, failed or
not, and states that were put in the place of its own. Those who keep statistics of it start again
with it. So nothing that is asked of it later can tell the two apart.

Results:
1. `leave_setup`: the stream and the strictness that a machine was made with stay, so that a reset
   brings back the machine as it was made (`reset_leave`).
2. `undergoAll_append`, `tallies_append`: what is done to a machine, one part behind the other.
3. `countAll_resets`: a reset clears the statistics, however often it is heard of.
4. `reset_erases_history`: outcomes and statistics behind a reset.
-/

namespace Chip8

namespace Machine

/-! ## What is done to a machine -/

/-- What a host can do to a machine: ask it for an operation, or put a state in the place of its
own. -/
inductive Act where
  | ask (command : Command)
  | assign (state : State)

/-- What an act comes to. -/
def undergo (machine : Machine) : Act → Outcome Answer
  | .ask command => machine.obey command
  | .assign state => ⟨{ machine with state := state }, [], .ok .nothing⟩

/-- What acts come to, one after the other. -/
def undergoAll (machine : Machine) : List Act → List (Outcome Answer)
  | [] => []
  | act :: rest => machine.undergo act :: (machine.undergo act).machine.undergoAll rest

/-- The machine that acts leave. -/
def leave (machine : Machine) (acts : List Act) : Machine :=
  acts.foldl (fun machine act => (machine.undergo act).machine) machine

variable {machine : Machine}

theorem leave_cons (act : Act) (rest : List Act) :
    machine.leave (act :: rest) = (machine.undergo act).machine.leave rest :=
  rfl

theorem undergoAll_append (first second : List Act) :
    machine.undergoAll (first ++ second) =
      machine.undergoAll first ++ (machine.leave first).undergoAll second := by
  induction first generalizing machine with
  | nil => rfl
  | cons act rest ih => rw [List.cons_append, undergoAll, undergoAll, ih, leave_cons, List.cons_append]

theorem length_undergoAll (acts : List Act) : (machine.undergoAll acts).length = acts.length := by
  induction acts generalizing machine with
  | nil => rfl
  | cons act rest ih => rw [undergoAll, List.length_cons, ih, List.length_cons]

/-- Whatever is done to a machine, only its state is another one then. -/
theorem undergo_machine (act : Act) :
    (machine.undergo act).machine =
      { machine with state := (machine.undergo act).machine.state } := by
  cases act with
  | ask command => exact machine.obey_machine command
  | assign state => rfl

theorem leave_setup (acts : List Act) :
    (machine.leave acts).random = machine.random ∧ (machine.leave acts).strict = machine.strict := by
  induction acts generalizing machine with
  | nil => exact ⟨rfl, rfl⟩
  | cons act rest ih =>
    have kept := machine.undergo_machine act
    rw [leave_cons, ih.1, ih.2, kept]
    exact ⟨rfl, rfl⟩

/-- A reset brings back the machine as it was made. -/
theorem reset_leave (acts : List Act) :
    ((machine.leave acts).undergo (.ask .reset)).machine = fresh machine.random machine.strict := by
  obtain ⟨random, strict⟩ := machine.leave_setup acts
  rw [← random, ← strict]
  rfl

end Machine

/-! ## Statistics of what is done -/

namespace Statistics

variable {Name : Type} [DecidableEq Name] (watchers : List Name) (watcher : Name)

/-- Counts what a watcher hears of an outcome. -/
def hear (statistics : Statistics) (outcome : Machine.Outcome Machine.Answer) : Statistics :=
  statistics.countAll (received watcher (notices watchers outcome.events))

/-- The statistics of a watcher after each of several outcomes. -/
def tallies (statistics : Statistics) :
    List (Machine.Outcome Machine.Answer) → List Statistics
  | [] => []
  | outcome :: rest =>
    statistics.hear watchers watcher outcome ::
      tallies (statistics.hear watchers watcher outcome) rest

variable {watchers watcher}

theorem length_tallies (statistics : Statistics)
    (outcomes : List (Machine.Outcome Machine.Answer)) :
    (statistics.tallies watchers watcher outcomes).length = outcomes.length := by
  induction outcomes generalizing statistics with
  | nil => rfl
  | cons outcome rest ih => rw [tallies, List.length_cons, ih, List.length_cons]

theorem tallies_append (statistics : Statistics)
    (first second : List (Machine.Outcome Machine.Answer)) :
    statistics.tallies watchers watcher (first ++ second) =
      statistics.tallies watchers watcher first ++
        (first.foldl (hear watchers watcher) statistics).tallies watchers watcher second := by
  induction first generalizing statistics with
  | nil => rfl
  | cons outcome rest ih =>
    rw [List.cons_append, tallies, tallies, ih, List.foldl_cons, List.cons_append]

/-- A reset clears the statistics, however often it is heard of. -/
theorem countAll_resets (statistics : Statistics) {count : Nat} (some : 0 < count) :
    statistics.countAll (List.replicate count .reset) = zero := by
  induction count generalizing statistics with
  | zero => exact absurd some (Nat.lt_irrefl 0)
  | succ count ih =>
    rw [List.replicate_succ, countAll, List.foldl_cons]
    cases count with
    | zero => rfl
    | succ count => exact ih _ (Nat.succ_pos count)

theorem hear_reset (attached : watcher ∈ watchers) (statistics : Statistics) (machine : Machine) :
    statistics.hear watchers watcher (machine.undergo (.ask .reset)) = zero := by
  have isReset : (machine.undergo (.ask .reset)).events = [.reset] := rfl
  rw [hear, isReset, received_single]
  exact countAll_resets statistics (List.count_pos_iff.mpr attached)

end Statistics

/-- A reset erases the past. Whatever was done to a machine before it is reset, and whatever its
statistics were, what is done to it afterwards comes to the same as on a fresh machine with the same
stream and strictness: the same states, answers, events and failures, one by one. And so are the
statistics after each of these, for everyone who is attached to the machine and starts to count the
fresh one from zero. -/
theorem reset_erases_history {Name : Type} [DecidableEq Name] (machine : Machine)
    (earlier later : List Machine.Act) (before : Statistics) (watchers : List Name)
    (watcher : Name) (attached : watcher ∈ watchers) :
    let whole := machine.undergoAll (earlier ++ .ask .reset :: later)
    let alone := (Machine.fresh machine.random machine.strict).undergoAll later
    whole.drop (earlier.length + 1) = alone ∧
      (before.tallies watchers watcher whole).drop (earlier.length + 1) =
        Statistics.zero.tallies watchers watcher alone := by
  intro whole alone
  let there := machine.leave earlier
  have fresh : alone = (there.undergo (.ask .reset)).machine.undergoAll later := by
    rw [machine.reset_leave earlier]
  -- The outcomes fall into those before the reset, that of the reset and those behind it.
  have parts : whole =
      (machine.undergoAll earlier ++ [there.undergo (.ask .reset)]) ++ alone := by
    rw [fresh, List.append_assoc]
    exact machine.undergoAll_append earlier (.ask .reset :: later)
  have length : (machine.undergoAll earlier ++ [there.undergo (.ask .reset)]).length =
      earlier.length + 1 := by
    rw [List.length_append, Machine.length_undergoAll, List.length_singleton]
  refine ⟨?_, ?_⟩
  · rw [parts, ← length, List.drop_left]
  · let earlierOutcomes := machine.undergoAll earlier ++ [there.undergo (.ask .reset)]
    have sameLength : (before.tallies watchers watcher earlierOutcomes).length =
        earlier.length + 1 := (Statistics.length_tallies before earlierOutcomes).trans length
    have cleared : earlierOutcomes.foldl (Statistics.hear watchers watcher) before =
        Statistics.zero := by
      rw [List.foldl_append, List.foldl_cons, List.foldl_nil, Statistics.hear_reset attached]
    rw [parts, Statistics.tallies_append, ← sameLength, List.drop_left, cleared]

/-- A host that makes a machine draw a random byte and wait for a key, asks for a key that does not
exist, and puts states in place that meet an unknown word and halt the machine. -/
def Machine.eventful : List Machine.Act := [
  .ask (.load #[0xC0, 0xFF, 0xF0, 0x0A]), .ask .step, .ask (.keyDown 16), .ask .step,
  .assign { State.initial ⟨5, 6⟩ with pc := 0x0FE, index := 0x123 }, .ask .step,
  .assign { State.initial ⟨8, 9⟩ with pc := 0xFFF, waitRegister := 3 }, .ask .step,
  .ask (.keyDown 3)]

/-- A strict machine that was reset after `Machine.eventful` fails at an unknown word as a fresh one,
and a watcher that is attached twice counts each event twice as if it had counted nothing before. -/
theorem reset_erases_history_eventful :
    let machine := Machine.fresh ⟨0, 7⟩ true
    let later : List Machine.Act :=
      [.ask (.load #[0xC0, 0xFF, 0x00, 0x00]), .ask .step, .ask .step, .ask .readDisplay]
    let whole := machine.undergoAll (Machine.eventful ++ .ask .reset :: later)
    let watchers := ["bell", "counter", "counter"]
    "counter" ∈ watchers ∧
    (whole.map (·.failure?)).drop 10 =
      [none, none, some (.unknownOpcode 0 0x202), none] ∧
    whole.drop 10 = machine.undergoAll later ∧
    (Statistics.zero.tallies watchers "counter" whole).drop 10 =
      [⟨0, 0, 0, 0, []⟩, ⟨2, 0, 0, 0, []⟩, ⟨4, 2, 0, 0, [0]⟩, ⟨4, 2, 0, 0, [0]⟩] := by
  intro machine later whole watchers
  have attached : "counter" ∈ watchers := by decide
  obtain ⟨outcomes, statistics⟩ :=
    reset_erases_history machine Machine.eventful later Statistics.zero watchers "counter" attached
  have drop : whole.drop 10 = machine.undergoAll later := outcomes
  obtain ⟨failures, counted⟩ :
      (machine.undergoAll later).map (·.failure?) =
        [none, none, some (.unknownOpcode 0 0x202), none] ∧
      Statistics.zero.tallies watchers "counter" (machine.undergoAll later) =
        [⟨0, 0, 0, 0, []⟩, ⟨2, 0, 0, 0, []⟩, ⟨4, 2, 0, 0, [0]⟩, ⟨4, 2, 0, 0, [0]⟩] := by
    decide +kernel
  refine ⟨attached, ?_, drop, statistics.trans counted⟩
  rw [← List.map_drop, drop, failures]

end Chip8
