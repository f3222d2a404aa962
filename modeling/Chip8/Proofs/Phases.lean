import Chip8.Proofs.Events
import Chip8.Proofs.Picture
import Chip8.Session

/-!
# What a session does in a frame

A frame is made of phases: the tick of the clock, the events that came in, a step and the drawing of
the display. In each phase the machine obeys a few commands, and the session keeps its program, its
colours and whatever else it was set up with.

Results:
1. `announceAll_append`, `announceAll_prints`: what is printed for events of the machine.
2. `operate_eq`, `handle_eq`, `advance_eq`, `draw_eq`: each operation of a session, as commands
   that its machine obeys.
3. `pass_session`, `pass_leads`, `asked_of_mem`: what a phase leaves, and which commands it asks.
4. `pass_effects`, `show_not_mem_pass`, `close_not_mem_pass`: what a phase does to the host.
5. `pass_error`: in a session that is well set up only a strict machine breaks off a phase.
-/

namespace Chip8

/-- The text that an effect prints. -/
def Effect.text? : Effect → Option String
  | .print text => some text
  | _ => none

namespace Session

/-! ## Texts -/

/-- What was announced before stands in front of what is announced next. -/
theorem foldl_announce (logger : Log.Logger) (events : List Event) (before : List Effect)
    (clock : Log.Clock) :
    events.foldl
      (fun (effects, clock) event =>
        let (announced, clock) := announce logger clock event
        (effects ++ announced, clock))
      (before, clock) =
    (before ++ (announceAll logger clock events).1, (announceAll logger clock events).2) := by
  induction events generalizing before clock with
  | nil => simp [announceAll]
  | cons event rest ih =>
    simp only [announceAll, List.foldl_cons, List.nil_append]
    rw [ih, ih (announce logger clock event).1, List.append_assoc]

theorem announceAll_append (logger : Log.Logger) (clock : Log.Clock) (first second : List Event) :
    announceAll logger clock (first ++ second) =
      ((announceAll logger clock first).1 ++
          (announceAll logger (announceAll logger clock first).2 second).1,
        (announceAll logger (announceAll logger clock first).2 second).2) := by
  rw [announceAll, List.foldl_append]
  exact foldl_announce logger second (announceAll logger clock first).1
    (announceAll logger clock first).2

theorem announceAll_singleton (logger : Log.Logger) (clock : Log.Clock) (event : Event) :
    announceAll logger clock [event] = announce logger clock event :=
  rfl

theorem printed_prints {text : String} {effect : Effect} (member : effect ∈ printed text) :
    ∃ text, effect = .print text := by
  unfold printed at member
  split at member
  · cases member
  · exact ⟨text, List.mem_singleton.mp member⟩

/-- Events of the machine are announced by printing. -/
theorem announceAll_prints {logger : Log.Logger} {clock : Log.Clock} {events : List Event}
    {effect : Effect} (member : effect ∈ (announceAll logger clock events).1) :
    ∃ text, effect = .print text := by
  induction events generalizing clock with
  | nil => cases member
  | cons event rest ih =>
    rw [← List.singleton_append, announceAll_append, List.mem_append] at member
    rcases member with first | later
    · rw [announceAll_singleton, announce, List.mem_append] at first
      exact first.elim printed_prints printed_prints
    · exact ih later

/-! ## From one session to the next -/

/-- A session leads to another: the machine has obeyed commands, and apart from the machine only the
clock, the pause and whether the session runs are new. -/
structure Leads (session : Session) (commands : List Machine.Command) (next : Session) : Prop where
  machine : next.machine = session.machine.after commands
  setup : next =
    { session with
      machine := next.machine
      clock := next.clock
      paused := next.paused
      running := next.running }

theorem Leads.refl (session : Session) : session.Leads [] session :=
  ⟨rfl, rfl⟩

theorem Leads.trans {session between next : Session} {first second : List Machine.Command}
    (before : session.Leads first between) (behind : between.Leads second next) :
    session.Leads (first ++ second) next := by
  refine ⟨?_, ?_⟩
  · rw [behind.machine, before.machine, Machine.after_append]
  · rw [behind.setup, before.setup]

namespace Leads

variable {session next : Session} {commands : List Machine.Command}

theorem program (leads : session.Leads commands next) : next.program = session.program := by
  rw [leads.setup]

theorem logger (leads : session.Leads commands next) : next.logger = session.logger := by
  rw [leads.setup]

theorem palette (leads : session.Leads commands next) : next.palette = session.palette := by
  rw [leads.setup]

theorem scale (leads : session.Leads commands next) : next.scale = session.scale := by
  rw [leads.setup]

theorem random (leads : session.Leads commands next) :
    next.machine.random = session.machine.random := by
  rw [leads.machine, Machine.after_machine]

theorem strict (leads : session.Leads commands next) :
    next.machine.strict = session.machine.strict := by
  rw [leads.machine, Machine.after_machine]

end Leads

/-- A session that is set up to go on whatever happens: the program fits in memory, and the display
can be drawn. -/
structure Sturdy (session : Session) : Prop where
  fits : session.program.size ≤ programCapacity
  colours : session.palette.Fits
  scale : 1 ≤ session.scale

theorem Sturdy.of_leads {session next : Session} {commands : List Machine.Command}
    (sturdy : session.Sturdy) (leads : session.Leads commands next) : next.Sturdy where
  fits := leads.program ▸ sturdy.fits
  colours := leads.palette ▸ sturdy.colours
  scale := leads.scale ▸ sturdy.scale

end Session

/-! ## Events of the host -/

theorem HostKey.keypad?_lt {key : HostKey} {pad : Nat} (found : key.keypad? = some pad) :
    pad < 16 := by
  have inBlock : ∀ entry ∈ HostKey.block, entry.2 < 16 := by decide
  cases key with
  | f5 => cases found
  | character c =>
    obtain ⟨before, rest, split, -⟩ := List.lookup_eq_some_iff.mp found
    have member : (c, pad) ∈ HostKey.block := by simp [split]
    exact inBlock _ member

/-- The command for the keypad's key that a host's key stands for. -/
def HostKey.moves (key : HostKey) (down : Bool) : List Machine.Command :=
  match key.keypad? with
  | some pad => [if down then .keyDown pad else .keyUp pad]
  | none => []

namespace HostEvent

/-- The event ends the session. -/
def leaves : HostEvent → Bool
  | .quit => true
  | .keyDown key => key = .escape
  | .keyUp _ | .other => false

/-- Whether the session is paused after the event. -/
def pausedAfter (paused : Bool) : HostEvent → Bool
  | .keyDown key => if key = .pause then !paused else if key = .f5 then false else paused
  | .quit | .keyUp _ | .other => paused

/-- The commands that the machine obeys for an event. -/
def asks (program : Program) : HostEvent → List Machine.Command
  | .keyDown key => if key = .f5 then [.reset, .load program] else key.moves true
  | .keyUp key => key.moves false
  | .quit | .other => []

end HostEvent

namespace Session

variable {session : Session}

/-- What a phase leaves in which the machine obeys commands and what it reports is printed. -/
def obeying (session : Session) (commands : List Machine.Command) (paused running : Bool)
    (error : Option SessionError) : Progress :=
  let announced :=
    announceAll session.logger session.clock (session.machine.reported commands)
  ⟨{ session with
      machine := session.machine.after commands
      clock := announced.2
      paused := paused
      running := running }, announced.1, error⟩

theorem Progress.andThen_congr {progress : Progress} {next other : Session → Progress}
    (same : next progress.session = other progress.session) :
    progress.andThen next = progress.andThen other := by
  unfold Progress.andThen
  cases progress.error <;> simp only [same]

theorem obeying_nil (paused running : Bool) :
    session.obeying [] paused running none = idle { session with paused, running } :=
  rfl

theorem obeying_leads (commands : List Machine.Command) (paused running : Bool)
    (error : Option SessionError) :
    session.Leads commands (session.obeying commands paused running error).session :=
  ⟨rfl, rfl⟩

/-- Commands that are obeyed one part behind the other. -/
theorem obeying_andThen (first second : List Machine.Command)
    (paused running pausedNext runningNext : Bool) (error : Option SessionError) :
    (session.obeying first paused running none).andThen
        (·.obeying second pausedNext runningNext error) =
      session.obeying (first ++ second) pausedNext runningNext error := by
  simp only [obeying, Progress.andThen, Machine.after_append, Machine.reported_append,
    announceAll_append]

/-- An operation of the machine is one of its commands. -/
theorem operate_eq {α : Type} {operation : Machine → Machine.Outcome α} {form : α → Machine.Answer}
    (command : Machine.Command)
    (obeys : session.machine.obey command = (operation session.machine).map form) :
    session.operate operation =
      session.obeying [command] session.paused session.running
        ((operation session.machine).failure?.map .machine) := by
  have machine : session.machine.after [command] = (operation session.machine).machine :=
    congrArg Machine.Outcome.machine obeys
  have reported : session.machine.reported [command] = (operation session.machine).events := by
    rw [Machine.reported_cons, obeys]
    exact List.append_nil _
  rw [obeying, machine, reported]
  unfold operate adopt
  generalize operation session.machine = outcome
  obtain ⟨machine, events, result⟩ := outcome
  cases result <;> rfl

theorem moveKey_eq (key : HostKey) (down : Bool) :
    session.moveKey key down =
      session.obeying (key.moves down) session.paused session.running none := by
  unfold moveKey HostKey.moves
  cases found : key.keypad? with
  | none => rfl
  | some pad =>
    have onKeypad : 0 ≤ (pad : Int) ∧ (pad : Int) < 16 := by
      have inside := HostKey.keypad?_lt found
      omega
    have succeeds : (session.machine.setKey pad down).failure? = none := by
      rw [Machine.setKey_failure?, if_pos onKeypad]
    cases down
    · exact (operate_eq (.keyUp pad) rfl).trans (by rw [succeeds]; rfl)
    · exact (operate_eq (.keyDown pad) rfl).trans (by rw [succeeds]; rfl)

theorem load_eq (fits : session.program.size ≤ programCapacity) :
    session.operate (·.load session.program) =
      session.obeying [.load session.program] session.paused session.running none := by
  have succeeds : (session.machine.load session.program).failure? = none := by
    rw [Machine.load_failure?, if_neg (Nat.not_lt.mpr fits)]
  rw [operate_eq (.load session.program) rfl, succeeds]
  rfl

theorem reload_eq {program : Program} {running : Bool} (sameProgram : session.program = program)
    (sameRunning : session.running = running) (fits : program.size ≤ programCapacity) :
    ((session.operate (·.load session.program)).andThen fun next =>
        idle { next with paused := false }) =
      session.obeying [.load program] false running none := by
  subst sameProgram sameRunning
  rw [load_eq fits]
  simp only [obeying, Progress.andThen, idle, List.append_nil]

theorem restart_eq (fits : session.program.size ≤ programCapacity) :
    session.restart =
      session.obeying [.reset, .load session.program] false session.running none := by
  calc session.restart
    _ = (session.obeying [.reset] session.paused session.running none).andThen fun next =>
          (next.operate (·.load next.program)).andThen fun next =>
            idle { next with paused := false } := by
        rw [restart, operate_eq .reset rfl]
        rfl
    _ = (session.obeying [.reset] session.paused session.running none).andThen
          (·.obeying [.load session.program] false session.running none) :=
        Progress.andThen_congr
          (reload_eq (by simp only [obeying]) (by simp only [obeying]) fits)
    _ = session.obeying [.reset, .load session.program] false session.running none :=
        obeying_andThen [.reset] [.load session.program] _ _ _ _ none

/-- What is left of a session by an event. -/
theorem handle_eq (sturdy : session.Sturdy) (event : HostEvent) :
    session.handle event =
      session.obeying (event.asks session.program) (event.pausedAfter session.paused)
        (session.running && !event.leaves) none := by
  cases event with
  | quit | other =>
    simp [handle, HostEvent.asks, HostEvent.pausedAfter, HostEvent.leaves, obeying_nil]
  | keyUp key =>
    simp only [handle, moveKey_eq, HostEvent.asks, HostEvent.pausedAfter, HostEvent.leaves,
      Bool.not_false, Bool.and_true]
  | keyDown key =>
    have escapeMoves : HostKey.escape.moves true = [] := by decide
    have pauseMoves : HostKey.pause.moves true = [] := by decide
    have apart : HostKey.escape ≠ .pause ∧ HostKey.escape ≠ .f5 ∧ HostKey.pause ≠ .f5 := by decide
    simp only [handle, moveKey_eq, restart_eq sturdy.fits, HostEvent.asks, HostEvent.pausedAfter,
      HostEvent.leaves]
    by_cases isEscape : key = .escape
    · simp [isEscape, apart, escapeMoves, obeying_nil]
    · by_cases isPause : key = .pause
      · simp [isPause, apart.1.symm, apart, pauseMoves, obeying_nil]
      · by_cases isRestart : key = .f5
        · simp [isRestart, apart.2.1.symm, apart.2.2.symm]
        · simp [isEscape, isPause, isRestart]

/-! ## Steps and drawing -/

/-- What is left of a session by a step, unless it is paused: it pauses if its machine is halted then,
and it breaks off if the step failed otherwise. -/
theorem advance_eq (unpaused : session.paused = false) :
    session.advance =
      session.obeying [.step] session.machine.step.machine.isHalted session.running
        (if session.machine.step.machine.isHalted then none
          else session.machine.step.failure?.map .machine) := by
  have machine : session.machine.after [.step] = session.machine.step.machine := rfl
  have reported : session.machine.reported [.step] = session.machine.step.events :=
    List.append_nil _
  have notPaused : ¬session.paused = true := by simp [unpaused]
  rw [advance, if_neg notPaused, obeying, machine, reported]
  by_cases halted : session.machine.step.machine.isHalted = true
  · rw [if_pos halted, halted]
    simp only [adopt, Machine.step_result_of_halted halted]
    rfl
  · have running : session.machine.step.machine.isHalted = false := by simpa using halted
    rw [if_neg halted, running, Machine.Outcome.failure?]
    cases failed : session.machine.step.result with
    | ok => simp [adopt, failed, unpaused]
    | error failure =>
      cases failure with
      | outOfRange => exact absurd (Machine.step_of_outOfRange failed).1 halted
      | _ => simp [adopt, failed, unpaused]

/-- A display that was written is read, and what was read is shown. -/
theorem draw_eq :
    session.draw =
      if session.machine.displayDirty then
        ({ session with machine := session.machine.after [.readDisplay] } : Session).present
          session.machine.state.display
      else session.idle := by
  unfold draw
  split <;> rfl

theorem draw_of_clean (clean : session.machine.displayDirty = false) :
    session.draw = idle session := by
  rw [draw_eq, clean]
  rfl

/-- Cells are shown in the window as they are. -/
theorem present_eq (sturdy : session.Sturdy) (cells : Display) :
    ∃ surface, session.present cells = ⟨session, [.show surface, .flip], none⟩ ∧
      surface.Depicts cells session.scale.toNat session.palette := by
  obtain ⟨picture, rendered, depicts⟩ :=
    Picture.render_of_fits sturdy.colours cells sturdy.scale
  refine ⟨_, ?_, Surface.depicts_ofArray_swapAxes depicts⟩
  rw [present, rendered]

/-- A display that was written is shown. -/
theorem draw_of_dirty (sturdy : session.Sturdy) (dirty : session.machine.displayDirty = true) :
    ∃ surface,
      session.draw =
        ⟨{ session with machine := session.machine.after [.readDisplay] },
          [.show surface, .flip], none⟩ ∧
      surface.Depicts session.machine.state.display session.scale.toNat session.palette := by
  rw [draw_eq, if_pos dirty]
  have sturdyNext :
      ({ session with machine := session.machine.after [.readDisplay] } : Session).Sturdy :=
    { sturdy with }
  exact present_eq sturdyNext session.machine.state.display

/-! ## Phases -/

/-- One thing that a session does in a frame. -/
inductive Phase where
  | tick
  | handle (event : HostEvent)
  | step
  | draw
deriving DecidableEq

/-- The phase ends the session. -/
def Phase.leaves : Phase → Bool
  | .handle event => event.leaves
  | .tick | .step | .draw => false

/-- Does one thing. -/
def pass (session : Session) : Phase → Progress
  | .tick => ⟨session, [.tick session.rate], none⟩
  | .handle event => session.handle event
  | .step => session.advance
  | .draw => session.draw

/-- The commands that the machine obeys in a phase. -/
def asks (session : Session) : Phase → List Machine.Command
  | .tick => []
  | .handle event => event.asks session.program
  | .step => if session.paused then [] else [.step]
  | .draw => if session.machine.displayDirty then [.readDisplay] else []

/-- Which commands the machine can be asked in a phase. -/
inductive Asked (program : Program) : Phase → Machine.Command → Prop where
  | step : Asked program .step .step
  | draw : Asked program .draw .readDisplay
  | reset : Asked program (.handle (.keyDown .f5)) .reset
  | load : Asked program (.handle (.keyDown .f5)) (.load program)
  | keyDown (key : HostKey) (pad : Int) : Asked program (.handle (.keyDown key)) (.keyDown pad)
  | keyUp (key : HostKey) (pad : Int) : Asked program (.handle (.keyUp key)) (.keyUp pad)

theorem asked_of_mem {phase : Phase} {command : Machine.Command}
    (member : command ∈ session.asks phase) : Asked session.program phase command := by
  cases phase with
  | tick => cases member
  | step =>
    rw [asks] at member
    split at member
    · cases member
    · exact List.mem_singleton.mp member ▸ .step
  | draw =>
    rw [asks] at member
    split at member
    · exact List.mem_singleton.mp member ▸ .draw
    · cases member
  | handle event =>
    cases event with
    | quit | other => cases member
    | keyDown key =>
      rw [asks, HostEvent.asks] at member
      split at member
      · next isRestart =>
        subst isRestart
        rcases List.mem_pair.mp member with rfl | rfl
        · exact .reset
        · exact .load
      · rw [HostKey.moves] at member
        split at member
        · exact List.mem_singleton.mp member ▸ .keyDown key _
        · cases member
    | keyUp key =>
      rw [asks, HostEvent.asks, HostKey.moves] at member
      split at member
      · exact List.mem_singleton.mp member ▸ .keyUp key _
      · cases member

/-- Whether the session is paused after a phase. -/
def pausedAfter (session : Session) : Phase → Bool
  | .handle event => event.pausedAfter session.paused
  | .step => session.paused || session.machine.step.machine.isHalted
  | .tick | .draw => session.paused

/-- Why a step breaks the session off, if it does. -/
def stepError? (session : Session) : Option SessionError :=
  if session.paused || session.machine.step.machine.isHalted then none
  else session.machine.step.failure?.map .machine

theorem pass_step :
    session.pass .step =
      session.obeying (session.asks .step) (session.pausedAfter .step) session.running
        session.stepError? := by
  rw [pass, asks, pausedAfter, stepError?]
  cases paused : session.paused with
  | true =>
    have kept : idle session = session.obeying [] true session.running none := by
      rw [← paused]
      rfl
    rw [advance, if_pos paused, kept]
    rfl
  | false =>
    rw [advance_eq paused, Bool.false_or]
    rfl

theorem pass_draw (sturdy : session.Sturdy) :
    ∃ effects,
      session.pass .draw =
        ⟨(session.obeying (session.asks .draw) session.paused session.running none).session,
          effects, none⟩ ∧
      (effects = [] ∨ ∃ surface, effects = [.show surface, .flip]) := by
  rw [pass, asks]
  cases dirty : session.machine.displayDirty with
  | false =>
    rw [draw_of_clean dirty]
    exact ⟨[], rfl, .inl rfl⟩
  | true =>
    obtain ⟨surface, drawn, -⟩ := draw_of_dirty sturdy dirty
    rw [drawn]
    exact ⟨_, rfl, .inr ⟨surface, rfl⟩⟩

/-- What a phase leaves of a session. -/
theorem pass_session (sturdy : session.Sturdy) (phase : Phase) :
    (session.pass phase).session =
      (session.obeying (session.asks phase) (session.pausedAfter phase)
        (session.running && !phase.leaves) none).session := by
  cases phase with
  | tick =>
    rw [pass, asks, Phase.leaves, Bool.not_false, Bool.and_true]
    rfl
  | handle event => rw [pass, handle_eq sturdy, asks, pausedAfter, Phase.leaves]
  | step =>
    rw [pass_step, Phase.leaves, Bool.not_false, Bool.and_true]
    rfl
  | draw =>
    obtain ⟨effects, drawn, -⟩ := pass_draw sturdy
    rw [drawn, Phase.leaves, Bool.not_false, Bool.and_true]
    rfl

theorem pass_leads (sturdy : session.Sturdy) (phase : Phase) :
    session.Leads (session.asks phase) (session.pass phase).session := by
  rw [pass_session sturdy]
  exact obeying_leads _ _ _ _

/-- Apart from the tick and the drawing a phase does nothing but print what the machine reports. -/
theorem pass_effects (sturdy : session.Sturdy) (phase : Phase) :
    (session.pass phase).effects =
      match phase with
      | .tick => [.tick session.rate]
      | .draw => (session.pass .draw).effects
      | .handle _ | .step =>
        (announceAll session.logger session.clock
          (session.machine.reported (session.asks phase))).1 := by
  cases phase with
  | tick | draw => rfl
  | handle event =>
    rw [pass, handle_eq sturdy]
    rfl
  | step =>
    rw [pass_step]
    rfl

/-- No phase closes the window. -/
theorem close_not_mem_pass (sturdy : session.Sturdy) (phase : Phase) :
    .close ∉ (session.pass phase).effects := by
  intro member
  rw [pass_effects sturdy] at member
  cases phase with
  | tick => simp at member
  | draw =>
    obtain ⟨effects, drawn, rfl | ⟨surface, rfl⟩⟩ := pass_draw sturdy <;> simp [drawn] at member
  | handle event | step =>
    obtain ⟨text, isPrint⟩ := announceAll_prints member
    cases isPrint

/-- Only the drawing shows a surface. -/
theorem show_not_mem_pass (sturdy : session.Sturdy) {phase : Phase} (notDraw : phase ≠ .draw)
    (surface : Surface) : .show surface ∉ (session.pass phase).effects := by
  intro member
  rw [pass_effects sturdy] at member
  cases phase with
  | draw => exact notDraw rfl
  | tick => simp at member
  | handle event | step =>
    obtain ⟨text, isPrint⟩ := announceAll_prints member
    cases isPrint

/-- Only a strict machine breaks off a phase. -/
theorem pass_error (sturdy : session.Sturdy) (lenient : session.machine.strict = false)
    (phase : Phase) : (session.pass phase).error = none := by
  cases phase with
  | tick => rfl
  | handle event =>
    rw [pass, handle_eq sturdy]
    rfl
  | step =>
    have noError : session.stepError? = none := by
      rw [stepError?, ite_eq_left_iff]
      intro goesOn
      rw [Machine.failure?_step_of_lenient lenient (by simp_all)]
      rfl
    rw [pass_step]
    exact noError
  | draw =>
    obtain ⟨effects, drawn, -⟩ := pass_draw sturdy
    rw [drawn]

end Session

end Chip8
