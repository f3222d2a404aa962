import Chip8.Machine.Watchers
import Chip8.Proofs.Tones

/-!
# What a machine reports

A step of a healthy machine reports that it was taken. Behind that it reports the fault that it
recorded, or else the tone and the unknown word that it met. A halted machine reports nothing, so
that the report of a fault is the last one of a step before the next reset.

Results:
1. `Sound.tone_step_iff`, `Sound.unknownOpcode_step_iff`: when a step notes a tone or an unknown word.
2. `Sound.step_of_unknown`: what such a word leaves behind.
3. `step_of_healthy`: the events and the result of a step that does not fault.
4. `loads_of_halted`, `loads_behind_halt`: what is reported behind a fault.
5. `Watched.told_eq`: what those who watch a machine are told.
6. `step_reports_in_order`: the protocol of events, for every step and over a run.
-/

namespace Chip8

namespace Event

/-- The report of a reset. -/
def isReset : Event → Bool
  | .reset => true
  | _ => false

/-- The report of a program that was loaded. -/
def isLoad : Event → Bool
  | .loaded _ => true
  | _ => false

/-- The report of a fault. -/
def isHalt : Event → Bool
  | .halted .. => true
  | _ => false

theorem apart_of_isLoad {event : Event} (load : event.isLoad = true) :
    event.isReset = false ∧ event.isHalt = false := by
  cases event with
  | loaded size => exact ⟨rfl, rfl⟩
  | _ => cases load

end Event

namespace State

variable {state : State}

/-! ## Tones and unknown words -/

/-- The word at the program counter matches no pattern. -/
def Unmatched (state : State) : Prop :=
  ∀ pattern ∈ patterns, pattern.accepts state.operands = false

instance (state : State) : Decidable state.Unmatched :=
  inferInstanceAs (Decidable (∀ pattern ∈ patterns, _))

theorem unmatched_iff :
    state.Unmatched ↔ ∃ word, Instruction.ofWord state.word = .unknown word := by
  have kind : (Instruction.ofWord state.word).op = classify state.operands :=
    Instruction.op_decode state.operands
  rw [Unmatched, ← classify_eq_unknown_iff, ← kind]
  cases Instruction.ofWord state.word <;> simp [Instruction.op]

/-- A step notes a tone if it takes the sound timer from one, where its instruction leaves it, to
zero. -/
theorem Sound.tone_step_iff (sound : state.Sound) :
    state.step.tone = true ↔ state.timerSet .sound = 1 ∧ state.step.timer .sound = 0 := by
  rw [sound.tone_step, Bool.and_eq_true, beq_iff_eq]
  constructor
  · rintro ⟨completed, atOne⟩
    refine ⟨atOne, ?_⟩
    rw [← UInt8.toNat_inj, sound.timer_of_completes completed, atOne]
    rfl
  · rintro ⟨atOne, atZero⟩
    refine ⟨?_, atOne⟩
    -- A step that is not completed would have left the timer at one.
    by_contra unfinished
    rw [Bool.not_eq_true] at unfinished
    rw [sound.timer_of_not_completes unfinished] at atZero
    rw [timerSet_of_none (sound.setsFrom?_of_not_completes unfinished .sound), atZero] at atOne
    cases atOne

/-- A step notes an unknown word if it carries one out and keeps it. -/
theorem Sound.unknownOpcode_step (sound : state.Sound) :
    state.step.unknownOpcode = true ↔ ∃ word, state.committed? = some (.unknown word) := by
  cases sound.stepOutcome with
  | kept instruction committed read result =>
    have noted : state.step.unknownOpcode =
        (state.clearReports.executedWith Edge.last).unknownOpcode := by
      rw [result, tickIfRunning_eq]
    rw [noted, executedWith_unknownOpcode, read, committed]
    cases instruction <;> simp [State.clearReports]
  | resolved _ committed _ result | idle committed _ result | discarded _ committed _ result =>
    rw [result, committed]
    simp [State.clearReports, tick]

/-- A running step that does not fault notes an unknown word if the word matches no pattern. -/
theorem Sound.unknownOpcode_step_iff (sound : state.Sound) (healthy : state.fault = Fault.healthy)
    (healthyNext : state.step.fault = Fault.healthy) :
    state.step.unknownOpcode = true ↔ state.mode = Mode.running ∧ state.Unmatched := by
  rw [sound.unknownOpcode_step, unmatched_iff]
  simp [committed?_eq_some_iff, healthy, healthyNext]

/-- The word at the program counter as a number. -/
theorem toNat_word :
    state.word.toNat =
      0x100 * (state.byteAt state.pc.toNat).toNat +
        (state.byteAt (state.pc.toNat + 1)).toNat := by
  have high := (state.byteAt state.pc.toNat).toNat_lt
  have low := (state.byteAt (state.pc.toNat + 1)).toNat_lt
  rw [word, UInt16.toNat_ofNat']
  exact Nat.mod_eq_of_lt (by omega)

/-- An unknown word is passed: the program counter moves by one word, and the timers count. -/
theorem Sound.step_of_unknown (sound : state.Sound) {word : UInt16}
    (committed : state.committed? = some (.unknown word)) :
    state.step.opcode = state.word ∧ state.step.pc.toNat = state.pc.toNat + 2 ∧
      ∀ timer, (state.step.timer timer).toNat = (state.timer timer).toNat - 1 := by
  have inMemory := sound.pc_le_of_committed committed
  have read : state.clearReports.fetchedInstruction Edge.last = .unknown word := by
    rw [fetchedInstruction_clearReports, sound.read_of_committed committed]
  refine ⟨?_, ?_, fun timer => ?_⟩
  · rw [step_of_committed committed, tickIfRunning_eq]
    exact (executedWith_opcode ..).trans (fetchedWord_eq Edge.last state.clearReports inMemory)
  · have moved : state.step.pc = state.pc + 2 := by
      rw [step_of_committed committed, tickIfRunning_eq]
      simp only [executedWith_pc, read]
      exact if_neg Bool.false_ne_true
    rw [moved, UInt16.toNat_add]
    simp only [UInt16.reduceToNat]
    omega
  · have completed := sound.completes_of_committed committed fun x isWait => by cases isWait
    have unset : state.setsFrom? timer = none := by
      rw [setsFrom?, committed]
      cases timer <;> rfl
    rw [sound.timer_of_completes completed, timerSet_of_none unset]

/-- A wait notes a tone if a key ends it and the sound timer is at one. -/
theorem Sound.tone_step_of_waiting (sound : state.Sound)
    (waiting : state.mode = Mode.awaitingKey) :
    state.step.tone = true ↔
      (∃ key, cellAt state.keypad key = true) ∧ state.timer .sound = 1 := by
  have healthy := (sound.awaiting waiting).1
  have notRunning : state.mode ≠ Mode.running := waiting ▸ by decide
  rw [sound.tone_step, Bool.and_eq_true, beq_iff_eq,
    timerSet_of_none (setsFrom?_of_committed_none (committed?_of_waiting notRunning)),
    sound.completes_of_wait healthy (.inl waiting)]

end State

namespace Machine

variable {machine : Machine}

/-! ## The events of a step -/

/-- The events and the result of a step that does not fault. -/
theorem step_of_healthy (healthy : machine.state.fault = Fault.healthy)
    (healthyNext : machine.state.step.fault = Fault.healthy) :
    machine.step =
      ⟨{ machine with state := machine.state.step },
        .stepped machine.state.step :: (if machine.state.step.tone then [.tone] else []) ++
          (if machine.state.step.unknownOpcode then
            [.unknownOpcode machine.state.step.opcode.toNat machine.state.pc.toNat] else []),
        if machine.state.step.unknownOpcode ∧ machine.strict then
          .error (.unknownOpcode machine.state.step.opcode.toNat machine.state.pc.toNat)
        else .ok ()⟩ := by
  simp only [step, isHalted, healthy, healthyNext, bne_self_eq_false, Bool.false_eq_true, if_false]
  cases machine.state.step.unknownOpcode <;> simp

theorem failure?_of_healthy (healthy : machine.state.fault = Fault.healthy)
    (healthyNext : machine.state.step.fault = Fault.healthy) :
    machine.step.failure? =
      if machine.state.step.unknownOpcode ∧ machine.strict then
        some (.unknownOpcode machine.state.step.opcode.toNat machine.state.pc.toNat)
      else none := by
  rw [step_of_healthy healthy healthyNext, Outcome.failure?]
  by_cases fails : machine.state.step.unknownOpcode = true ∧ machine.strict = true
  · simp only [if_pos fails]
  · simp only [if_neg fails]

theorem step_machine_of_healthy (healthy : machine.state.fault = Fault.healthy) :
    machine.step.machine.state = machine.state.step := by
  have running : machine.isHalted = false := by simp [isHalted, healthy]
  simp [step_state, running]

/-- A machine that is not strict fails a step for a fault only. -/
theorem failure?_step_of_lenient (lenient : machine.strict = false)
    (running : machine.step.machine.isHalted = false) : machine.step.failure? = none := by
  have healthy : machine.state.fault = Fault.healthy := by
    by_contra faulty
    rw [step_of_halted (isHalted_iff.mpr faulty)] at running
    exact faulty (isHalted_eq_false_iff.mp running)
  have healthyNext : machine.state.step.fault = Fault.healthy := by
    rw [← step_machine_of_healthy healthy]
    exact isHalted_eq_false_iff.mp running
  have notStrict : ¬(machine.state.step.unknownOpcode = true ∧ machine.strict = true) := by
    simp [lenient]
  rw [failure?_of_healthy healthy healthyNext, if_neg notStrict]

/-- A step that faults reports itself and its fault, and fails with it. -/
theorem step_reports_fault (healthy : machine.state.fault = Fault.healthy)
    (faulted : machine.state.step.fault ≠ Fault.healthy) :
    machine.step.events =
        [.stepped machine.state.step,
          .halted machine.state.step.fault.toNat machine.state.pc.toNat
            machine.state.step.opcode.toNat] ∧
      machine.step.result =
        .error (.outOfRange machine.state.step.fault.toNat machine.state.pc.toNat
          machine.state.step.opcode.toNat) := by
  have samePc : machine.state.step.pc = machine.state.pc := by
    rw [State.step_of_faulted healthy faulted]
  rw [step_of_faulted healthy faulted]
  simp only [haltEvent, haltFailure, samePc, and_self]

/-! ## Behind a fault -/

/-- A halted machine reports at most a program that is loaded, until it is reset. -/
theorem load_of_halted (halted : machine.isHalted = true) {command : Command}
    (kept : command ≠ .reset) : ∀ event ∈ (machine.obey command).events, event.isLoad = true := by
  rw [obey_events]
  cases command with
  | reset => exact absurd rfl kept
  | load program =>
    simp only
    split <;> simp [Event.isLoad]
  | step =>
    rw [step_of_halted halted]
    simp
  | keyDown | keyUp | displayDirty | readDisplay | soundActive => simp

/-- Up to the next reset a halted machine reports nothing but programs that are loaded. -/
theorem loads_of_halted (halted : machine.isHalted = true) (commands : List Command) :
    ∀ event ∈ (machine.reported commands).takeWhile (!·.isReset), event.isLoad = true := by
  induction commands generalizing machine with
  | nil => simp [reported, obeyAll]
  | cons command rest ih =>
    rw [reported_cons]
    by_cases isReset : command = .reset
    · subst isReset
      simp [obey, reset, Outcome.map, Event.isReset]
    · have loads := load_of_halted halted isReset
      have notReset : ∀ event ∈ (machine.obey command).events, (!event.isReset) = true := by
        intro event inside
        simp [(Event.apart_of_isLoad (loads event inside)).1]
      rw [List.takeWhile_append_of_pos notReset, List.forall_mem_append]
      exact ⟨loads, ih (obey_of_halted halted isReset).1⟩

/-- The report of a fault is the last one of a step, and leaves the machine halted. -/
theorem halted_of_step_report {before behind : List Event} {fault address opcode : Int}
    (events : machine.step.events = before ++ .halted fault address opcode :: behind) :
    behind = [] ∧ machine.step.machine.isHalted = true := by
  have inside : Event.halted fault address opcode ∈ machine.step.events := by
    rw [events]
    exact List.mem_append_right _ List.mem_cons_self
  by_cases healthy : machine.state.fault = Fault.healthy
  · by_cases healthyNext : machine.state.step.fault = Fault.healthy
    · rw [step_of_healthy healthy healthyNext] at inside
      cases machine.state.step.tone <;> cases machine.state.step.unknownOpcode <;> simp at inside
    · rw [step_of_faulted healthy healthyNext] at events ⊢
      refine ⟨?_, isHalted_iff.mpr healthyNext⟩
      -- Two events, of which the second one is the report.
      rcases before with _ | ⟨first, _ | ⟨second, before⟩⟩
      · cases events
      · exact (List.cons.inj (List.cons.inj events).2).2.symm
      · simp at events
  · rw [step_of_halted (isHalted_iff.mpr healthy)] at inside
    cases inside

theorem halted_of_report {command : Command} {before behind : List Event}
    {fault address opcode : Int}
    (events : (machine.obey command).events = before ++ .halted fault address opcode :: behind) :
    behind = [] ∧ (machine.obey command).machine.isHalted = true := by
  cases command with
  | step => exact halted_of_step_report events
  | load program =>
    have inside : Event.halted fault address opcode ∈ (machine.obey (.load program)).events := by
      rw [events]
      exact List.mem_append_right _ List.mem_cons_self
    rw [obey_events] at inside
    simp only at inside
    split at inside <;> simp at inside
  | reset | keyDown | keyUp | displayDirty | readDisplay | soundActive =>
    rw [obey_events] at events
    simp [List.cons_eq_append_iff] at events

/-- Behind the report of a fault a run reports nothing but programs that are loaded, up to the next
reset. -/
theorem loads_behind_halt {commands : List Command} {before behind : List Event}
    {fault address opcode : Int}
    (events : machine.reported commands = before ++ .halted fault address opcode :: behind) :
    ∀ event ∈ behind.takeWhile (!·.isReset), event.isLoad = true := by
  induction commands generalizing machine before with
  | nil => simp [reported, obeyAll] at events
  | cons command rest ih =>
    rw [reported_cons] at events
    -- The report is made by the first operation or by a later one.
    rcases List.append_eq_append_iff.mp events with ⟨between, -, later⟩ | ⟨inFirst, first, tail⟩
    · exact ih later
    · cases inFirst with
      | nil =>
        have later : (machine.obey command).machine.reported rest =
            [] ++ .halted fault address opcode :: behind := tail.symm
        exact ih later
      | cons event inFirst =>
        obtain ⟨rfl, rfl⟩ := List.cons.inj tail
        obtain ⟨rfl, halted⟩ := halted_of_report first
        exact loads_of_halted halted rest

/-- In a stretch of reports in which only loads follow a fault there is one fault at most. -/
theorem countP_isHalt_le_one {events : List Event}
    (loads : ∀ first fault address opcode last,
      events = first ++ .halted fault address opcode :: last →
        ∀ event ∈ last, event.isLoad = true) :
    events.countP Event.isHalt ≤ 1 := by
  induction events with
  | nil => simp
  | cons event rest ih =>
    cases event with
    | halted fault address opcode =>
      have single : rest.countP Event.isHalt = 0 := by
        rw [List.countP_eq_zero]
        intro later inside
        have load := loads [] fault address opcode rest rfl later inside
        simp [(Event.apart_of_isLoad load).2]
      exact Nat.le_of_eq <| (List.countP_cons_of_pos rfl).trans (congrArg (· + 1) single)
    | _ =>
      rw [List.countP_cons_of_neg Bool.false_ne_true]
      exact ih fun first fault address opcode last split =>
        loads (_ :: first) fault address opcode last (congrArg (_ :: ·) split)

/-! ## The protocol -/

/-- What a step reports and how it ends. -/
structure StepReports (machine : Machine) (outcome : Outcome Unit) : Prop where
  /-- A halted machine reports nothing and fails for its fault. -/
  halted : machine.state.fault ≠ Fault.healthy →
    outcome = ⟨machine, [], .error (haltFailure machine.state)⟩
  /-- A step that records a fault reports itself and the fault, and fails with that fault. -/
  faulted : machine.state.fault = Fault.healthy →
    outcome.machine.state.fault ≠ Fault.healthy →
    outcome.events =
        [.stepped outcome.machine.state,
          .halted outcome.machine.state.fault.toNat machine.state.pc.toNat
            outcome.machine.state.opcode.toNat] ∧
      outcome.result =
        .error (.outOfRange outcome.machine.state.fault.toNat machine.state.pc.toNat
          outcome.machine.state.opcode.toNat)
  /-- Any other step reports itself, and a tone if it took the sound timer from one to zero. -/
  passed : machine.state.fault = Fault.healthy → outcome.machine.state.fault = Fault.healthy →
    ¬ (machine.state.mode = Mode.running ∧ machine.state.Unmatched) →
    outcome.events =
        .stepped outcome.machine.state ::
          (if machine.state.timerSet .sound = 1 ∧ outcome.machine.state.timer .sound = 0 then
            [.tone] else []) ∧
      outcome.result = .ok ()
  /-- If it met an unknown word it reports that last, and a strict machine fails with it. The word is
  passed by then, and the timers have counted. -/
  unknown : machine.state.fault = Fault.healthy → outcome.machine.state.fault = Fault.healthy →
    machine.state.mode = Mode.running → machine.state.Unmatched →
    let address := machine.state.pc.toNat
    let opcode :=
      0x100 * (machine.state.byteAt address).toNat + (machine.state.byteAt (address + 1)).toNat
    outcome.events =
        .stepped outcome.machine.state ::
          (if machine.state.timerSet .sound = 1 ∧ outcome.machine.state.timer .sound = 0 then
            [.tone] else []) ++ [.unknownOpcode opcode address] ∧
      outcome.result =
        (if machine.strict then .error (.unknownOpcode opcode address) else .ok ()) ∧
      outcome.machine.state.pc.toNat = address + 2 ∧
      ∀ timer,
        (outcome.machine.state.timer timer).toNat = (machine.state.timer timer).toNat - 1
  /-- A step of a machine that waits reports itself, and the one that ends the wait maybe a tone. -/
  waiting : machine.state.mode = Mode.awaitingKey →
    outcome.events =
        .stepped outcome.machine.state ::
          (if (∃ key, cellAt machine.state.keypad key = true) ∧ machine.state.timer .sound = 1 then
            [.tone] else []) ∧
      outcome.result = .ok ()

theorem reachable_step (machine : Machine) (reached : machine.state.Reachable) :
    machine.step.machine.state.Reachable := by
  obtain ⟨random, strict, commands, reached⟩ := reached
  refine ⟨random, strict, commands ++ [.step], ?_⟩
  have stepped (other : Machine) : (other.after [.step]).state = other.step.machine.state := rfl
  rw [after_append, stepped, step_state, step_state, isHalted, isHalted, reached]

theorem Sound.stepReports (sound : machine.state.Sound) : machine.StepReports machine.step where
  halted faulty := step_of_halted (isHalted_iff.mpr faulty)
  faulted healthy faulted := by
    rw [step_machine_of_healthy healthy] at faulted ⊢
    exact step_reports_fault healthy faulted
  passed healthy healthyNext known := by
    rw [step_machine_of_healthy healthy] at healthyNext ⊢
    have quiet := mt (sound.unknownOpcode_step_iff healthy healthyNext).mp known
    rw [step_of_healthy healthy healthyNext]
    simp [quiet, sound.tone_step_iff]
  unknown healthy healthyNext running unmatched := by
    rw [step_machine_of_healthy healthy] at healthyNext ⊢
    have noted := (sound.unknownOpcode_step_iff healthy healthyNext).mpr ⟨running, unmatched⟩
    obtain ⟨word, committed⟩ := sound.unknownOpcode_step.mp noted
    obtain ⟨opcode, pc, timers⟩ := sound.step_of_unknown committed
    rw [step_of_healthy healthy healthyNext, opcode, State.toNat_word]
    simp [noted, sound.tone_step_iff, pc, timers]
  waiting waits := by
    have healthy := (sound.awaiting waits).1
    have notRunning : machine.state.mode ≠ Mode.running := waits ▸ by decide
    have healthyNext : machine.state.step.fault = Fault.healthy :=
      (State.stepWith_fault _ _ healthy).trans (if_neg notRunning)
    have quiet := mt (sound.unknownOpcode_step_iff healthy healthyNext).mp fun met =>
      notRunning met.1
    rw [step_of_healthy healthy healthyNext]
    simp [quiet, sound.tone_step_of_waiting waits]

end Machine

/-- What the watchers of a machine are told in a run is what the run reports. -/
theorem Watched.told_eq {Name : Type} (watched : Watched Name) (commands : List Machine.Command) :
    watched.told commands = notices watched.watchers (watched.machine.reported commands) := by
  induction commands generalizing watched with
  | nil => rfl
  | cons command rest ih =>
    rw [told, ih, Machine.reported_cons, notices, notices, List.flatMap_append]
    rfl

/-- The protocol of a machine's events. A step of a machine that is halted reports nothing. Any other
step reports itself first; then the fault that it recorded, with which it fails; or else the tone, if
it took the sound timer from one to zero, and an unknown word, with which it fails if the machine is
strict. So between two resets a fault is reported once at most, and nothing but loads is reported
behind it. Whoever watches a machine is told these events by its step, and no others. -/
theorem step_reports_in_order :
    (∀ machine : Machine, machine.state.Reachable → machine.StepReports machine.step) ∧
    (∀ (machine : Machine) (commands : List Machine.Command) (before middle rest : List Event),
      machine.reported commands = before ++ middle ++ rest →
      (∀ event ∈ middle, event.isReset = false) →
      middle.countP Event.isHalt ≤ 1 ∧
      ∀ first fault address opcode last,
        middle = first ++ .halted fault address opcode :: last →
        ∀ event ∈ last, event.isLoad = true) ∧
    (∀ (Name : Type) [DecidableEq Name] (watcher : Name) (watchers : List Name)
        (machine : Machine), watchers.count watcher = 1 →
      let outcome := Watched.step ⟨machine, watchers⟩
      received watcher outcome.notices = machine.step.events ∧
      outcome.watched = ⟨machine.step.machine, watchers⟩ ∧
      outcome.result = machine.step.result) := by
  refine ⟨fun machine reached => Machine.Sound.stepReports reached.sound, ?_,
    fun Name _ watcher watchers machine once => ⟨received_of_once once _, rfl, rfl⟩⟩
  intro machine commands before middle rest events noReset
  have loads : ∀ first fault address opcode last,
      middle = first ++ .halted fault address opcode :: last →
        ∀ event ∈ last, event.isLoad = true := by
    intro first fault address opcode last split event inside
    have behind : machine.reported commands =
        (before ++ first) ++ .halted fault address opcode :: (last ++ rest) := by
      simp [events, split]
    have notReset : ∀ later ∈ last, (!later.isReset) = true := by
      intro later inLast
      have inMiddle : later ∈ middle := by
        rw [split]
        exact List.mem_append_right _ (List.mem_cons_of_mem _ inLast)
      simp [noReset later inMiddle]
    refine Machine.loads_behind_halt behind event ?_
    rw [List.takeWhile_append_of_pos notReset]
    exact List.mem_append_left _ inside
  exact ⟨Machine.countP_isHalt_le_one loads, loads⟩

/-- A strict machine about to pass an unknown word with its sound timer at one. Behind the word it
returns although no call is open. -/
def Machine.passingWord : Machine :=
  (Machine.fresh ⟨0, 0⟩ true).after
    [.load #[0x60, 0x02, 0xF0, 0x18, 0x00, 0x00, 0x00, 0xEE], .step, .step]

/-- The tone goes before the unknown word; the return reports its fault, and what follows is silent
but for the load. -/
theorem step_reports_in_order_passingWord :
    Machine.passingWord.state.Reachable ∧
    Machine.passingWord.state.Unmatched ∧
    Machine.passingWord.step.events =
      [.stepped Machine.passingWord.step.machine.state, .tone, .unknownOpcode 0 0x204] ∧
    Machine.passingWord.step.result = .error (.unknownOpcode 0 0x204) ∧
    Machine.passingWord.step.machine.step.events =
      [.stepped Machine.passingWord.step.machine.step.machine.state, .halted 3 0x206 0x00EE] ∧
    Machine.passingWord.step.machine.step.machine.step =
      ⟨Machine.passingWord.step.machine.step.machine, [], .error (.outOfRange 3 0x206 0x00EE)⟩ ∧
    Machine.waiting.state.mode = Mode.awaitingKey ∧
    Machine.waiting.step.events = [.stepped Machine.waiting.step.machine.state] ∧
    (Machine.passingWord.step.machine.reported [.step, .load #[0x12, 0x00], .step]).countP
      Event.isHalt ≤ 1 ∧
    received 7 (Watched.step ⟨Machine.passingWord, [4, 7]⟩).notices =
      Machine.passingWord.step.events := by
  obtain ⟨steps, run, watched⟩ := step_reports_in_order
  have reached : Machine.passingWord.state.Reachable := ⟨_, _, _, rfl⟩
  have reachedNext : Machine.passingWord.step.machine.state.Reachable :=
    Machine.reachable_step _ reached
  have reachedWaiting : Machine.waiting.state.Reachable := ⟨_, _, _, rfl⟩
  obtain ⟨healthy, running, unmatched, atOne, atZero, strict, address, opcode⟩ :
      Machine.passingWord.state.fault = Fault.healthy ∧
      Machine.passingWord.state.mode = Mode.running ∧ Machine.passingWord.state.Unmatched ∧
      Machine.passingWord.state.timerSet .sound = 1 ∧
      Machine.passingWord.step.machine.state.timer .sound = 0 ∧
      Machine.passingWord.strict = true ∧ Machine.passingWord.state.pc.toNat = 0x204 ∧
      0x100 * (Machine.passingWord.state.byteAt 0x204).toNat +
        (Machine.passingWord.state.byteAt (0x204 + 1)).toNat = 0 := by
    decide +kernel
  obtain ⟨healthyNext, faulted, fault, addressNext, opcodeNext, failure⟩ :
      Machine.passingWord.step.machine.state.fault = Fault.healthy ∧
      Machine.passingWord.step.machine.step.machine.state.fault ≠ Fault.healthy ∧
      Machine.passingWord.step.machine.step.machine.state.fault.toNat = 3 ∧
      Machine.passingWord.step.machine.state.pc.toNat = 0x206 ∧
      Machine.passingWord.step.machine.step.machine.state.opcode.toNat = 0x00EE ∧
      Machine.haltFailure Machine.passingWord.step.machine.step.machine.state =
        .outOfRange 3 0x206 0x00EE := by
    decide +kernel
  obtain ⟨waits, allUp, noReset⟩ :
      Machine.waiting.state.mode = Mode.awaitingKey ∧
      (¬ ∃ key, cellAt Machine.waiting.state.keypad key = true) ∧
      ∀ event ∈ Machine.passingWord.step.machine.reported
        [.step, .load #[0x12, 0x00], .step], event.isReset = false := by
    decide +kernel
  obtain ⟨events, result, -⟩ := (steps _ reached).unknown healthy healthyNext running unmatched
  have halting := ((steps _ reachedNext).faulted healthyNext faulted).1
  have silent := ((steps _ reachedWaiting).waiting waits).1
  have again := (steps _ (Machine.reachable_step _ reachedNext)).halted faulted
  rw [if_pos ⟨atOne, atZero⟩, address, opcode] at events
  rw [if_pos strict, address, opcode] at result
  rw [if_neg fun rings => allUp rings.1] at silent
  rw [failure] at again
  rw [fault, addressNext, opcodeNext] at halting
  have single := (run _ _ [] _ [] (List.append_nil _).symm noReset).1
  exact ⟨reached, unmatched, events, result, halting, again, waits, silent, single,
    (watched Nat 7 [4, 7] Machine.passingWord (by decide)).1⟩

end Chip8
