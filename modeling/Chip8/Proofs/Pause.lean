import Chip8.Proofs.Frames
import Mathlib.Data.List.Forall2

/-!
# A pause changes nothing

A session that is paused and resumed does what it would have done without the pause, only later. In
the frames of the pause it waits for the clock and does nothing else: the machine takes no step, and
the display has been drawn before. As time goes on in a pause, two runs are compared up to the times
that their lines show.

Results:
1. `announceAll_alike`, `pass_alike`, `Progress.Alike.play`, `opened_alike`: sessions that are the
   same but for the time stay so, and so they start.
2. `frame_of_paused`, `frame_of_pausing`, `frame_of_resuming`: the frames of a pause.
3. `clean_of_frames`: behind a frame the display has been drawn.
4. `Progress.Settled.play_pause`, `Progress.Alike.finish_of_pause`: a pause in the middle of a run
   adds the ticks of its frames, and the session ends as without it.
5. `pause_transparent`: the same for whole sessions.
-/

namespace Chip8

/-- Effects that are the same but for the time that a line shows. -/
inductive Effect.Alike : Effect → Effect → Prop where
  | same (effect : Effect) : Alike effect effect
  | line (logger other : Log.Logger) (now later : Float) (text : String) :
      Alike (.print (logger.stamp now ++ text)) (.print (other.stamp later ++ text))

namespace Session

/-! ## Runs at different times -/

theorem alike_refl (effects : List Effect) : List.Forall₂ Effect.Alike effects effects :=
  List.forall₂_same.mpr fun effect _ => .same effect

theorem printed_stamped (logger : Log.Logger) (now : Float) (text : String) :
    printed (logger.stamp now ++ text) = [.print (logger.stamp now ++ text)] :=
  if_neg (by simp [Log.Logger.stamp])

/-- When a logger was made shows only in the times of its lines. -/
theorem log_alike (logger : Log.Logger) (start : Float) (clock clock' : Log.Clock)
    (level : Log.Level) (message : String) :
    List.Forall₂ Effect.Alike (printed (logger.log clock level message).1)
      (printed (({ logger with start := start } : Log.Logger).log clock' level message).1) := by
  unfold Log.Logger.log
  by_cases accepted : logger.accepts level = true
  · have accepted' : ({ logger with start := start } : Log.Logger).accepts level = true := accepted
    rw [if_pos accepted, if_pos accepted']
    by_cases stamped : logger.timestamps = true
    · simp only [stamped, if_true, printed_stamped]
      exact .cons (.line logger _ _ _ (logger.body level message)) .nil
    · simp only [if_neg stamped]
      exact alike_refl _
  · have refused : ¬({ logger with start := start } : Log.Logger).accepts level = true := accepted
    rw [if_neg accepted, if_neg refused]
    exact alike_refl _

theorem announce_alike (logger : Log.Logger) (start : Float) (clock clock' : Log.Clock)
    (event : Event) :
    List.Forall₂ Effect.Alike (announce logger clock event).1
      (announce { logger with start := start } clock' event).1 := by
  simp only [announce, Log.Logger.report]
  cases Log.entry? event with
  | none => exact alike_refl _
  | some entry => exact List.rel_append (log_alike logger start clock clock' _ _) (alike_refl _)

theorem announceAll_alike (logger : Log.Logger) (start : Float) (clock clock' : Log.Clock)
    (events : List Event) :
    List.Forall₂ Effect.Alike (announceAll logger clock events).1
      (announceAll { logger with start := start } clock' events).1 := by
  induction events generalizing clock clock' with
  | nil => exact .nil
  | cons event rest ih =>
    rw [← List.singleton_append, announceAll_append, announceAll_append]
    exact List.rel_append (announce_alike logger start clock clock' event) (ih _ _)

/-- Sessions that are the same but for the time. -/
def Alike (one other : Session) : Prop :=
  ∃ start clock,
    other = { one with logger := { one.logger with start := start }, clock := clock }

/-- Sessions under way that are the same, and did the same, but for the time. -/
structure Progress.Alike (one other : Progress) : Prop where
  session : one.session.Alike other.session
  effects : List.Forall₂ Effect.Alike one.effects other.effects
  error : one.error = other.error

theorem Alike.machine {one other : Session} (alike : one.Alike other) :
    other.machine = one.machine := by
  obtain ⟨start, clock, rfl⟩ := alike
  rfl

theorem Alike.sturdy {one other : Session} (alike : one.Alike other) (sturdy : one.Sturdy) :
    other.Sturdy := by
  obtain ⟨start, clock, rfl⟩ := alike
  exact ⟨sturdy.fits, sturdy.colours, sturdy.scale⟩

theorem Alike.idle {one other : Session} (alike : one.Alike other) : one.idle.Alike other.idle :=
  ⟨alike, .nil, rfl⟩

theorem obeying_alike {one other : Session} (alike : one.Alike other)
    (commands : List Machine.Command) (paused running : Bool) (error : Option SessionError) :
    (one.obeying commands paused running error).Alike
      (other.obeying commands paused running error) := by
  obtain ⟨start, clock, rfl⟩ := alike
  exact ⟨⟨start, _, rfl⟩, announceAll_alike one.logger start one.clock clock _, rfl⟩

theorem present_alike {one other : Session} (alike : one.Alike other) (cells : Display) :
    (one.present cells).Alike (other.present cells) := by
  obtain ⟨start, clock, rfl⟩ := alike
  unfold present
  simp only
  split <;> exact ⟨⟨start, clock, rfl⟩, alike_refl _, rfl⟩

theorem draw_alike {one other : Session} (alike : one.Alike other) :
    one.draw.Alike other.draw := by
  have read : ({ one with machine := one.machine.after [.readDisplay] } : Session).Alike
      { other with machine := other.machine.after [.readDisplay] } := by
    obtain ⟨start, clock, rfl⟩ := alike
    exact ⟨start, clock, rfl⟩
  rw [draw_eq, draw_eq, alike.machine]
  split
  · rw [alike.machine] at read
    exact present_alike read one.machine.state.display
  · exact alike.idle

/-- A phase of sessions that are the same but for the time is the same but for the time. -/
theorem pass_alike {one other : Session} (alike : one.Alike other) (sturdy : one.Sturdy)
    (phase : Phase) : (one.pass phase).Alike (other.pass phase) := by
  have sturdyOther := alike.sturdy sturdy
  cases phase with
  | tick =>
    refine ⟨alike, ?_, rfl⟩
    obtain ⟨start, clock, rfl⟩ := alike
    exact alike_refl _
  | handle event =>
    have next := obeying_alike alike (event.asks one.program) (event.pausedAfter one.paused)
      (one.running && !event.leaves) none
    rw [pass, pass, handle_eq sturdy, handle_eq sturdyOther]
    obtain ⟨start, clock, rfl⟩ := alike
    exact next
  | step =>
    have next := obeying_alike alike (one.asks .step) (one.pausedAfter .step) one.running
      one.stepError?
    rw [pass_step, pass_step]
    obtain ⟨start, clock, rfl⟩ := alike
    exact next
  | draw => exact draw_alike alike

namespace Progress

theorem Alike.andThen {one other : Progress} (alike : one.Alike other) (next : Session → Progress)
    (same : (next one.session).Alike (next other.session)) :
    (one.andThen next).Alike (other.andThen next) := by
  cases going : one.error with
  | some error =>
    rw [andThen_of_error going, andThen_of_error (alike.error.symm.trans going)]
    exact alike
  | none =>
    rw [andThen_of_none going, andThen_of_none (alike.error.symm.trans going)]
    exact ⟨same.session, List.rel_append alike.effects same.effects, same.error⟩

theorem Alike.passAll {one other : Progress} (alike : one.Alike other)
    (sturdy : one.session.Sturdy) (phases : List Phase) :
    (one.passAll phases).Alike (other.passAll phases) := by
  induction phases generalizing one other with
  | nil => exact alike
  | cons phase rest ih =>
    have next := alike.andThen (·.pass phase) (pass_alike alike.session sturdy phase)
    rw [passAll_cons, passAll_cons]
    exact ih next (passAll_sturdy sturdy [phase])

theorem Alike.play {one other : Progress} (alike : one.Alike other) (sturdy : one.session.Sturdy)
    (frames : List (List HostEvent)) : (one.play frames).Alike (other.play frames) := by
  rw [play_eq, play_eq]
  exact alike.passAll sturdy _

/-! ## The frames of a pause -/

theorem play_append (progress : Progress) (first second : List (List HostEvent)) :
    progress.play (first ++ second) = (progress.play first).play second :=
  List.foldl_append

/-- What is played goes on from the session alone. -/
theorem play_eq_andThen (progress : Progress) (frames : List (List HostEvent)) :
    progress.play frames = progress.andThen fun session => session.idle.play frames := by
  have played : ∀ session : Session,
      session.idle.play frames = session.idle.passAll (frames.flatMap phasesOf) :=
    fun session => play_eq session.idle frames
  simp only [played]
  rw [andThen_passAll, andThen_idle, play_eq]

end Progress

variable {session : Session}

/-- A paused session whose display has been drawn does nothing in a frame but wait for the clock. -/
theorem frame_of_paused (paused : session.paused = true)
    (clean : session.machine.displayDirty = false) :
    session.frame [] = ⟨session, [.tick session.rate], none⟩ := by
  have stays : session.advance = session.idle := if_pos paused
  have undrawn : session.draw = session.idle := draw_of_clean clean
  simp only [frame, handleAll, List.foldl_nil, Progress.andThen, idle, stays, undrawn,
    List.append_nil]

/-- So does a session in the frame in which the pause key is pressed. -/
theorem frame_of_pausing (running : session.paused = false)
    (clean : session.machine.displayDirty = false) :
    session.frame [.keyDown .pause] =
      ⟨{ session with paused := true }, [.tick session.rate], none⟩ := by
  have pressed : session.frame [.keyDown .pause] =
      ({ session with paused := !session.paused } : Session).frame [] := rfl
  rw [pressed, running, Bool.not_false]
  exact frame_of_paused rfl clean

/-- A frame in which the pause key comes first resumes a paused session. -/
theorem frame_of_resuming (session : Session) (events : List HostEvent) :
    ({ session with paused := true } : Session).frame (.keyDown .pause :: events) =
      ({ session with paused := false } : Session).frame events :=
  rfl

/-- Behind a frame the display has been drawn. -/
theorem clean_of_frames {progress : Progress} (sturdy : progress.session.Sturdy)
    {frames : List (List HostEvent)} (some : frames ≠ [])
    (going : (progress.play frames).error = none) :
    (progress.play frames).session.machine.displayDirty = false := by
  obtain ⟨phases, ended⟩ := progress.play_last some
  have sturdyBefore := Progress.passAll_sturdy sturdy phases
  rw [ended] at going ⊢
  have goingStep := Progress.going_of_andThen going
  have goingBefore := Progress.going_of_andThen goingStep
  have sturdyStep := Progress.andThen_sturdy sturdyBefore goingBefore .step
  rw [Progress.andThen_of_none goingStep, (pass_leads sturdyStep .draw).machine, asks]
  split
  · rfl
  · next clean =>
    rw [Bool.not_eq_true] at clean
    exact clean

/-! ## A pause in a run -/

/-- The frames of a pause: the pause key is pressed, then nothing happens for a while. -/
def pauseFrames (count : Nat) : List (List HostEvent) :=
  [.keyDown .pause] :: List.replicate count []

namespace Progress

variable {progress : Progress}

/-- A session that can be paused here: it goes on, it is not paused, and its display has been drawn. -/
structure Settled (progress : Progress) : Prop where
  sturdy : progress.session.Sturdy
  going : progress.error = none
  unpaused : progress.session.paused = false
  clean : progress.session.machine.displayDirty = false

theorem play_sturdy (sturdy : progress.session.Sturdy) (frames : List (List HostEvent)) :
    (progress.play frames).session.Sturdy := by
  rw [play_eq]
  exact passAll_sturdy sturdy _

/-- Behind each frame a session that runs on is settled, unless it is paused. -/
theorem settled_of_frames (sturdy : progress.session.Sturdy) {frames : List (List HostEvent)}
    (some : frames ≠ []) (going : (progress.play frames).error = none)
    (unpaused : (progress.play frames).session.paused = false) :
    (progress.play frames).Settled :=
  ⟨play_sturdy sturdy frames, going, unpaused, clean_of_frames sturdy some going⟩

theorem play_cons (progress : Progress) (events : List HostEvent) (rest : List (List HostEvent)) :
    progress.play (events :: rest) =
      (progress.andThen (·.frame events)).andThen fun session => session.idle.play rest :=
  play_eq_andThen (progress.andThen (·.frame events)) rest

theorem play_waiting (paused : session.paused = true)
    (clean : session.machine.displayDirty = false) (count : Nat) :
    session.idle.play (List.replicate count []) =
      ⟨session, List.replicate count (.tick session.rate), none⟩ := by
  induction count with
  | zero => rfl
  | succ count ih =>
    have first : session.idle.andThen (·.frame []) = ⟨session, [.tick session.rate], none⟩ := by
      rw [andThen_of_none rfl, idle, frame_of_paused paused clean]
      rfl
    rw [List.replicate_succ, play_cons, first, andThen_of_none rfl, ih, List.replicate_succ]
    rfl

/-- A pause leaves a session as it was, but for the ticks of its frames. -/
theorem play_pauseFrames (running : session.paused = false)
    (clean : session.machine.displayDirty = false) (count : Nat) :
    session.idle.play (pauseFrames count) =
      ⟨{ session with paused := true }, List.replicate (count + 1) (.tick session.rate), none⟩ := by
  have first : session.idle.andThen (·.frame [.keyDown .pause]) =
      ⟨{ session with paused := true }, [.tick session.rate], none⟩ := by
    rw [andThen_of_none rfl, idle, frame_of_pausing running clean]
    rfl
  have waits : ({ session with paused := true } : Session).idle.play (List.replicate count []) =
      ⟨{ session with paused := true }, List.replicate count (.tick session.rate), none⟩ :=
    @play_waiting { session with paused := true } rfl clean count
  rw [pauseFrames, play_cons, first, andThen_of_none rfl, waits, List.replicate_succ]
  rfl

/-- A session that was paused and is resumed in front of its events goes on as without the pause. -/
theorem play_resumed (running : session.paused = false) (next : List HostEvent)
    (rest : List (List HostEvent)) :
    ({ session with paused := true } : Session).idle.play ((.keyDown .pause :: next) :: rest) =
      session.idle.play (next :: rest) := by
  have same : ({ session with paused := false } : Session) = session := by rw [← running]
  have inFrame := frame_of_resuming session next
  rw [same] at inFrame
  have first : ({ session with paused := true } : Session).idle.andThen
      (·.frame (.keyDown .pause :: next)) = session.idle.andThen (·.frame next) := by
    rw [andThen_of_none rfl, andThen_of_none rfl, idle, idle, inFrame]
  rw [play_cons, play_cons, first]

/-- A pause in a run adds the ticks of its frames, and the run goes on as without it. -/
theorem Settled.play_pause (settled : progress.Settled) (count : Nat) (next : List HostEvent)
    (rest : List (List HostEvent)) :
    progress.play (pauseFrames count ++ (.keyDown .pause :: next) :: rest) =
      Progress.play ⟨progress.session,
        progress.effects ++ List.replicate (count + 1) (.tick progress.session.rate), none⟩
        (next :: rest) := by
  have paused : progress.play (pauseFrames count) =
      ⟨{ progress.session with paused := true },
        progress.effects ++ List.replicate (count + 1) (.tick progress.session.rate), none⟩ := by
    rw [play_eq_andThen, andThen_of_none settled.going,
      play_pauseFrames settled.unpaused settled.clean]
  rw [play_append, paused, play_eq_andThen, andThen_of_none rfl, play_resumed settled.unpaused]
  exact (play_eq_andThen ⟨_, _, none⟩ (next :: rest)).symm

end Progress

/-! ## Whole sessions -/

/-- The session of a program, before it is loaded. -/
def unloaded (options : SessionOptions) (program : Program) (terminal : Bool)
    (level : Log.Level) (palette : Palette) (random : RandomKey) (clock : Log.Clock) : Session where
  machine := Machine.fresh random options.strict
  program := program
  logger := ⟨"chip8", level, true && terminal, true, clock.read.1⟩
  clock := clock.read.2
  palette := palette
  scale := options.scale
  rate := options.rate
  paused := false
  running := true

section

variable {options : SessionOptions} {program : Program} {terminal : Bool}
  {clock clock' : Log.Clock} {start start' : Progress}

theorem eq_of_opened (opens : opened options program terminal clock = .ok start) :
    ∃ level palette random, Log.Level.ofName? options.logLevel = some level ∧
      Palette.ofName? options.palette = some palette ∧
      RandomKey.ofSeed? options.seed = some random ∧
      start = ((unloaded options program terminal level palette random clock).operate
        (·.load program)).andThen (openWindow options.path) := by
  unfold opened load Log.Logger.create? at opens
  cases named : Log.Level.ofName? options.logLevel with
  | none =>
    rw [named] at opens
    cases opens
  | some level =>
    cases coloured : Palette.ofName? options.palette with
    | none =>
      rw [named, coloured] at opens
      cases opens
    | some palette =>
      cases seeded : RandomKey.ofSeed? options.seed with
      | none =>
        rw [named, coloured, seeded] at opens
        cases opens
      | some random =>
        rw [named, coloured, seeded] at opens
        exact ⟨level, palette, random, rfl, rfl, rfl, (Except.ok.inj opens).symm⟩

theorem load_alike {one other : Session} (alike : one.Alike other) (program : Program) :
    (one.operate (·.load program)).Alike (other.operate (·.load program)) := by
  have next := obeying_alike alike [.load program] one.paused one.running
    ((one.machine.load program).failure?.map .machine)
  rw [operate_eq (.load program) rfl, operate_eq (.load program) rfl]
  obtain ⟨start, clock, rfl⟩ := alike
  exact next

theorem openWindow_alike {one other : Session} (alike : one.Alike other) (path : String) :
    (one.openWindow path).Alike (other.openWindow path) := by
  obtain ⟨start, clock, rfl⟩ := alike
  exact ⟨⟨start, _, rfl⟩,
    List.rel_append (alike_refl _) (log_alike one.logger start one.clock clock _ _), rfl⟩

/-- When a session is opened shows only in the times of its lines. -/
theorem opened_alike (opens : opened options program terminal clock = .ok start)
    (opens' : opened options program terminal clock' = .ok start') : start.Alike start' := by
  obtain ⟨level, palette, random, named, coloured, seeded, rfl⟩ := eq_of_opened opens
  obtain ⟨level', palette', random', named', coloured', seeded', rfl⟩ := eq_of_opened opens'
  obtain rfl := Option.some.inj (named.symm.trans named')
  obtain rfl := Option.some.inj (coloured.symm.trans coloured')
  obtain rfl := Option.some.inj (seeded.symm.trans seeded')
  have unloadedAlike : (unloaded options program terminal level palette random clock).Alike
      (unloaded options program terminal level palette random clock') := ⟨_, _, rfl⟩
  have loaded := load_alike unloadedAlike program
  exact loaded.andThen _ (openWindow_alike loaded.session _)

theorem rate_of_opened (opens : opened options program terminal clock = .ok start) :
    start.session.rate = options.rate := by
  obtain ⟨level, palette, random, -, -, -, rfl⟩ := eq_of_opened opens
  rw [operate_eq (.load program) rfl]
  unfold Progress.andThen
  split <;> rfl

end

/-- Frames in which the session is not left are played whatever comes behind them. -/
theorem played_append {before : List (List HostEvent)}
    (stays : before.any (·.any HostEvent.leaves) = false) (rest : List (List HostEvent)) :
    played (before ++ rest) = before ++ played rest := by
  induction before with
  | nil => rfl
  | cons events before ih =>
    rw [List.any_cons, Bool.or_eq_false_iff] at stays
    rw [List.cons_append, played, stays.1, if_neg Bool.false_ne_true, ih stays.2, List.cons_append]

/-- The host asks to quit at the end of a script, whether or not the script says so. -/
theorem played_append_quit (script : List (List HostEvent)) :
    played (script ++ [[.quit]]) = played script := by
  induction script with
  | nil => rfl
  | cons events rest ih => rw [List.cons_append, played, played, ih]

/-- No frame of a pause is one in which the session is left, so that the same frames are played
behind it. -/
theorem played_pause {before : List (List HostEvent)}
    (stays : before.any (·.any HostEvent.leaves) = false) (count : Nat) (next : List HostEvent)
    (rest : List (List HostEvent)) :
    ∃ frames,
      played (before ++ next :: rest) = before ++ next :: frames ∧
      played (before ++ pauseFrames count ++ (.keyDown .pause :: next) :: rest) =
        before ++ pauseFrames count ++ (.keyDown .pause :: next) :: frames := by
  have pauseKey : HostEvent.leaves (.keyDown .pause) = false := by decide
  have pauseStays : (before ++ pauseFrames count).any (·.any HostEvent.leaves) = false := by
    rw [List.any_append, stays]
    simp [pauseFrames, pauseKey]
  exact ⟨_, played_append stays (next :: rest),
    played_append pauseStays ((.keyDown .pause :: next) :: rest)⟩

/-- A session that runs behind its frames was not left in them. -/
theorem stays_of_running {progress : Progress} (sturdy : progress.session.Sturdy)
    {frames : List (List HostEvent)} (going : (progress.play frames).error = none)
    (running : (progress.play frames).session.running = true) :
    frames.any (·.any HostEvent.leaves) = false := by
  rw [Progress.play_eq] at going running
  rw [Progress.passAll_running sturdy going, Bool.and_eq_true, Bool.not_eq_true',
    List.any_flatMap] at running
  simpa only [Function.comp_def, any_leaves_phasesOf] using running.2

/-- Plays the last frames of a session and closes the window. -/
def finish (session : Session) (frames : List (List HostEvent)) : Progress :=
  (session.idle.play frames).andThen close

theorem Progress.play_close (progress : Progress) (frames : List (List HostEvent)) :
    (progress.play frames).andThen close = progress.andThen (·.finish frames) := by
  rw [Progress.play_eq_andThen, Progress.andThen_assoc]
  rfl

theorem finish_alike {one other : Session} (alike : one.Alike other) (sturdy : one.Sturdy)
    (frames : List (List HostEvent)) : (one.finish frames).Alike (other.finish frames) := by
  have ends := alike.idle.play sturdy frames
  exact ends.andThen close ⟨ends.session, alike_refl _, rfl⟩

namespace Progress

variable {one other : Progress}

theorem Alike.settled (alike : one.Alike other) (settled : one.Settled) : other.Settled := by
  refine ⟨alike.session.sturdy settled.sturdy, alike.error.symm.trans settled.going, ?_, ?_⟩
  · obtain ⟨start, clock, same⟩ := alike.session
    rw [same, settled.unpaused]
  · rw [alike.session.machine, settled.clean]

/-- The machine is the same behind each frame after a pause in the later of two runs. -/
theorem Alike.machine_of_pause (alike : one.Alike other) (settled : one.Settled) (count : Nat)
    (next : List HostEvent) (rest : List (List HostEvent)) :
    (other.play (pauseFrames count ++ (.keyDown .pause :: next) :: rest)).session.machine =
      (one.play (next :: rest)).session.machine := by
  have onward := alike.session.idle.play settled.sturdy (next :: rest)
  rw [(alike.settled settled).play_pause, play_eq_andThen one, andThen_of_none settled.going,
    play_eq_andThen ⟨_, _, none⟩, andThen_of_none rfl]
  exact onward.session.machine

/-- After the pause the session does the same, up to times, and ends in the same way. -/
theorem Alike.finish_of_pause (alike : one.Alike other) (settled : one.Settled) (count : Nat)
    (next : List HostEvent) (rest : List (List HostEvent)) :
    let ended := (one.play (next :: rest)).andThen close
    let endedOther :=
      (other.play (pauseFrames count ++ (.keyDown .pause :: next) :: rest)).andThen close
    ∃ later later', ended.effects = one.effects ++ later ∧
      endedOther.effects =
        other.effects ++ List.replicate (count + 1) (.tick other.session.rate) ++ later' ∧
      List.Forall₂ Effect.Alike later later' ∧ ended.error = endedOther.error := by
  intro ended endedOther
  have onward := finish_alike alike.session settled.sturdy (next :: rest)
  have endsOne : ended = one.andThen (·.finish (next :: rest)) := play_close one (next :: rest)
  have endsOther : endedOther = Progress.andThen ⟨other.session,
      other.effects ++ List.replicate (count + 1) (.tick other.session.rate), none⟩
      (·.finish (next :: rest)) := by
    rw [← play_close, ← (alike.settled settled).play_pause]
  rw [endsOne, endsOther, andThen_of_none settled.going, andThen_of_none rfl]
  exact ⟨_, _, rfl, rfl, onward.effects, onward.error⟩

end Progress

theorem Progress.play_rate {progress : Progress} (sturdy : progress.session.Sturdy)
    (frames : List (List HostEvent)) :
    (progress.play frames).session.rate = progress.session.rate := by
  obtain ⟨commands, leads⟩ := Progress.passAll_leads sturdy (frames.flatMap phasesOf)
  rw [Progress.play_eq, leads.setup]

end Session

/-- A pause shows only in the time that it takes. Let a session with valid options have played some
frames, and let it run and not be paused then. A run in which the pause key is pressed there, in a
frame of its own, then nothing happens for a number of frames, and then the pause key is pressed in
front of the next events, is the run without these, but for the ticks of the frames of the pause: the
machine is the same behind each frame that both runs have, the session does the same up to the times
that its lines show, and it ends in the same way. -/
theorem pause_transparent (options : SessionOptions) (program : Program) (terminal : Bool)
    (valid : options.Valid program) :
    ∃ start : Log.Clock → Session.Progress,
      (∀ clock, Session.opened options program terminal clock = .ok (start clock)) ∧
      (∀ clock script, Session.run options (some program) terminal clock script =
        let ended := ((start clock).play (Session.played script)).andThen Session.close
        (ended.effects, ended.error)) ∧
      (∀ script, Session.played (script ++ [[.quit]]) = Session.played script) ∧
      ∀ clock clock' before next rest count, before ≠ [] →
        let now := (start clock).play before
        now.error = none → now.session.running = true → now.session.paused = false →
        let pausing := before ++ Session.pauseFrames count
        let resumed := HostEvent.keyDown .pause :: next
        (∀ frames, ((start clock').play frames).session.machine =
          ((start clock).play frames).session.machine) ∧
        (∀ frames, ((start clock').play (pausing ++ resumed :: frames)).session.machine =
          ((start clock).play (before ++ next :: frames)).session.machine) ∧
        ∃ earlier later later' error,
          Session.run options (some program) terminal clock (before ++ next :: rest) =
            (now.effects ++ later, error) ∧
          Session.run options (some program) terminal clock' (pausing ++ resumed :: rest) =
            (earlier ++ List.replicate (count + 1) (.tick options.rate) ++ later', error) ∧
          List.Forall₂ Effect.Alike now.effects earlier ∧
          List.Forall₂ Effect.Alike later later' := by
  have opens : ∀ clock, ∃ start, Session.opened options program terminal clock = .ok start ∧
      start.session.Sturdy ∧ start.session.running = true := by
    intro clock
    obtain ⟨random, start, -, opens, begun⟩ := Session.exists_opened valid terminal clock
    exact ⟨start, opens, begun.sturdy valid, begun.running⟩
  choose start opens sturdy running using opens
  have runs := fun clock => Session.run_eq (opens clock) (sturdy clock) (running clock)
  refine ⟨start, opens, runs, Session.played_append_quit, ?_⟩
  intro clock clock' before next rest count some now going runsOn unpaused pausing resumed
  have alike : (start clock).Alike (start clock') :=
    Session.opened_alike (opens clock) (opens clock')
  have alikeNow := alike.play (sturdy clock) before
  have settled := Session.Progress.settled_of_frames (sturdy clock) some going unpaused
  have rate : ((start clock').play before).session.rate = options.rate := by
    rw [Session.Progress.play_rate (sturdy clock'), Session.rate_of_opened (opens clock')]
  have stays := Session.stays_of_running (sturdy clock) going runsOn
  have apart : ∀ frames, pausing ++ resumed :: frames =
      before ++ (Session.pauseFrames count ++ resumed :: frames) :=
    fun frames => List.append_assoc _ _ _
  refine ⟨fun frames => (alike.play (sturdy clock) frames).session.machine, fun frames => ?_, ?_⟩
  · rw [apart, Session.Progress.play_append, Session.Progress.play_append (start clock)]
    exact alikeNow.machine_of_pause settled count next frames
  · obtain ⟨frames, played, playedPausing⟩ := Session.played_pause stays count next rest
    obtain ⟨later, later', effects, effects', same, error⟩ :=
      alikeNow.finish_of_pause settled count next frames
    refine ⟨_, later, later', ((now.play (next :: frames)).andThen Session.close).error, ?_, ?_,
      alikeNow.effects, same⟩
    · rw [runs, played, Session.Progress.play_append]
      exact Prod.ext effects rfl
    · rw [runs, playedPausing, apart, Session.Progress.play_append, ← rate]
      exact Prod.ext effects' error.symm

/-- A strict machine that reports whatever it can. -/
def SessionOptions.strictDebug : SessionOptions where
  path := "stray.ch8"
  scale := 2
  rate := 60
  seed := 7
  palette := "classic"
  strict := true
  logLevel := "DEBUG"

/-- Lets the tone sound and then runs into an unknown word. -/
def strayProgram : Program := #[0x60, 0x02, 0xF0, 0x18, 0xF0, 0xFF]

/-- A session that breaks off in its third frame does so, too, if it is paused before. -/
theorem pause_transparent_stray :
    SessionOptions.strictDebug.Valid strayProgram ∧
    ∃ start earlier later later',
      let before : List (List HostEvent) := [[], []]
      let now := Session.Progress.play start before
      let error := some (.machine (.unknownOpcode 0xF0FF 0x204))
      Session.opened SessionOptions.strictDebug strayProgram false (Log.Clock.still 0) =
        .ok start ∧
      now.error = none ∧ now.session.running = true ∧ now.session.paused = false ∧
      Session.run SessionOptions.strictDebug (some strayProgram) false (Log.Clock.still 0)
        [[], [], [.other], []] = (now.effects ++ later, error) ∧
      Session.run SessionOptions.strictDebug (some strayProgram) false (Log.Clock.still 5)
        [[], [], [.keyDown .pause], [], [], [.keyDown .pause, .other], []] =
        (earlier ++ List.replicate 3 (.tick 60) ++ later', error) ∧
      List.Forall₂ Effect.Alike now.effects earlier ∧ List.Forall₂ Effect.Alike later later' := by
  have valid : SessionOptions.strictDebug.Valid strayProgram :=
    ⟨by decide, by decide, by decide, by decide, by decide⟩
  obtain ⟨start, opens, -, -, pauses⟩ :=
    pause_transparent SessionOptions.strictDebug strayProgram false valid
  have computed :
      (Session.opened SessionOptions.strictDebug strayProgram false
          (Log.Clock.still 0)).toOption.any (fun start =>
        let now := start.play [[], []]
        decide (now.error = none ∧ now.session.running = true ∧ now.session.paused = false)) =
        true := by
    decide +kernel
  rw [opens] at computed
  obtain ⟨going, running, unpaused⟩ := of_decide_eq_true computed
  obtain ⟨-, -, earlier, later, later', error, first, second, sameBefore, sameBehind⟩ :=
    pauses (Log.Clock.still 0) (Log.Clock.still 5) [[], []] [.other] [[]] 2 (by simp) going running
      unpaused
  have broken : (Session.run SessionOptions.strictDebug (some strayProgram) false
      (Log.Clock.still 0) [[], [], [.other], []]).2 =
        some (.machine (.unknownOpcode 0xF0FF 0x204)) := by
    decide +kernel
  have isBroken : error = some (.machine (.unknownOpcode 0xF0FF 0x204)) :=
    (congrArg Prod.snd first).symm.trans broken
  subst isBroken
  exact ⟨valid, start (Log.Clock.still 0), earlier, later, later', opens _, going, running,
    unpaused, first, second, sameBefore, sameBehind⟩

end Chip8
