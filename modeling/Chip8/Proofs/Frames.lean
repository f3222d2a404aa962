import Chip8.Proofs.Phases

/-!
# Frames and whole sessions

A session that is under way does one phase after the other until one breaks it off. Its frames are
the phases of the events that came in, up to the frame in which it is left.

Results:
1. `Progress.passAll_induction`: what each phase keeps holds behind any number of phases.
2. `Progress.passAll_leads`, `Progress.passAll_running`, `Progress.passAll_going`: what phases leave,
   and when they go on.
3. `frame_eq`, `Progress.play_eq`, `Progress.frames_eq`: frames are phases, and a session plays its
   frames.
4. `exists_opened`, `run_eq`: a session whose options are valid is opened, and what it does then.
-/

namespace Chip8

/-- The options name a level and a palette, the seed fits in 64 bits, the scale is positive, and the
program fits in memory. -/
structure SessionOptions.Valid (options : SessionOptions) (program : Program) : Prop where
  level : (Log.Level.ofName? options.logLevel).isSome
  palette : (Palette.ofName? options.palette).isSome
  seed : -0x8000000000000000 ≤ options.seed ∧ options.seed < 0x8000000000000000
  scale : 1 ≤ options.scale
  fits : program.size ≤ 3584

namespace Session

/-! ## One phase behind the other -/

namespace Progress

variable {progress : Progress}

theorem andThen_of_error {error : SessionError} (broken : progress.error = some error)
    (next : Session → Progress) : progress.andThen next = progress := by
  rw [andThen, broken]

theorem andThen_of_none (going : progress.error = none) (next : Session → Progress) :
    progress.andThen next =
      ⟨(next progress.session).session, progress.effects ++ (next progress.session).effects,
        (next progress.session).error⟩ := by
  rw [andThen, going]

theorem going_of_andThen {next : Session → Progress}
    (going : (progress.andThen next).error = none) : progress.error = none := by
  cases broken : progress.error with
  | none => rfl
  | some error =>
    rw [andThen_of_error broken, broken] at going
    cases going

theorem andThen_assoc (first second : Session → Progress) :
    (progress.andThen first).andThen second =
      progress.andThen fun session => (first session).andThen second := by
  cases going : progress.error with
  | some error => simp only [andThen_of_error going]
  | none =>
    rw [andThen_of_none going, andThen_of_none going]
    cases goingNext : (first progress.session).error with
    | some error => simp only [andThen, goingNext]
    | none => simp only [andThen, goingNext, List.append_assoc]

theorem andThen_idle : progress.andThen idle = progress := by
  cases going : progress.error with
  | some error => exact andThen_of_error going idle
  | none =>
    rw [andThen_of_none going, idle, List.append_nil, ← going]

/-- Does one phase after the other, until one breaks the session off. -/
def passAll (progress : Progress) (phases : List Phase) : Progress :=
  phases.foldl (fun progress phase => progress.andThen (·.pass phase)) progress

theorem passAll_cons (phase : Phase) (rest : List Phase) :
    progress.passAll (phase :: rest) = (progress.andThen (·.pass phase)).passAll rest :=
  rfl

theorem passAll_append (first second : List Phase) :
    progress.passAll (first ++ second) = (progress.passAll first).passAll second :=
  List.foldl_append

theorem passAll_of_error {error : SessionError} (broken : progress.error = some error)
    (phases : List Phase) : progress.passAll phases = progress := by
  induction phases with
  | nil => rfl
  | cons phase rest ih => rw [passAll_cons, andThen_of_error broken, ih]

theorem andThen_passAll (next : Session → Progress) (phases : List Phase) :
    (progress.andThen fun session => (next session).passAll phases) =
      (progress.andThen next).passAll phases := by
  induction phases generalizing next with
  | nil => rfl
  | cons phase rest ih =>
    simp only [passAll_cons]
    rw [ih, andThen_assoc]

theorem andThen_sturdy (sturdy : progress.session.Sturdy) (going : progress.error = none)
    (phase : Phase) : (progress.andThen (·.pass phase)).session.Sturdy := by
  rw [andThen_of_none going]
  exact sturdy.of_leads (pass_leads sturdy phase)

/-- What holds at the start and is kept by each phase holds behind all of them. -/
theorem passAll_induction (holds : Progress → Prop) (sturdy : progress.session.Sturdy)
    (phases : List Phase) (start : holds progress)
    (step : ∀ (progress : Progress) (phase : Phase), phase ∈ phases → progress.session.Sturdy →
      progress.error = none → holds progress → holds (progress.andThen (·.pass phase))) :
    holds (progress.passAll phases) := by
  induction phases generalizing progress with
  | nil => exact start
  | cons phase rest ih =>
    have later := fun progress phase member => step progress phase (List.mem_cons_of_mem _ member)
    cases going : progress.error with
    | some error => rwa [passAll_of_error going]
    | none =>
      have first := step progress phase List.mem_cons_self sturdy going start
      exact ih (andThen_sturdy sturdy going phase) first later

/-- The machine of a session obeys commands, whatever the session does, and the setup stays. -/
theorem passAll_leads (sturdy : progress.session.Sturdy) (phases : List Phase) :
    ∃ commands, progress.session.Leads commands (progress.passAll phases).session := by
  refine passAll_induction (fun next => ∃ commands, progress.session.Leads commands next.session)
    sturdy phases ⟨[], .refl _⟩ fun next phase _ sturdyNext going ⟨commands, leads⟩ => ?_
  rw [andThen_of_none going]
  exact ⟨_, leads.trans (pass_leads sturdyNext phase)⟩

theorem passAll_sturdy (sturdy : progress.session.Sturdy) (phases : List Phase) :
    (progress.passAll phases).session.Sturdy := by
  obtain ⟨commands, leads⟩ := passAll_leads sturdy phases
  exact sturdy.of_leads leads

theorem passAll_running (sturdy : progress.session.Sturdy) {phases : List Phase}
    (going : (progress.passAll phases).error = none) :
    (progress.passAll phases).session.running =
      (progress.session.running && !phases.any Phase.leaves) := by
  induction phases generalizing progress with
  | nil => simp [passAll]
  | cons phase rest ih =>
    cases goingBefore : progress.error with
    | some error =>
      rw [passAll_of_error goingBefore, goingBefore] at going
      cases going
    | none =>
      rw [passAll_cons] at going ⊢
      rw [ih (andThen_sturdy sturdy goingBefore phase) going, andThen_of_none goingBefore,
        pass_session sturdy]
      simp [obeying, Bool.and_assoc]

/-- A session whose machine is not strict never breaks off. -/
theorem passAll_going (sturdy : progress.session.Sturdy)
    (lenient : progress.session.machine.strict = false) (going : progress.error = none)
    (phases : List Phase) : (progress.passAll phases).error = none := by
  induction phases generalizing progress with
  | nil => exact going
  | cons phase rest ih =>
    have leads := pass_leads sturdy phase
    rw [passAll_cons, andThen_of_none going]
    exact ih (sturdy.of_leads leads) (leads.strict.trans lenient) (pass_error sturdy lenient phase)

/-- No phase closes the window. -/
theorem passAll_unclosed (sturdy : progress.session.Sturdy) (unclosed : .close ∉ progress.effects)
    (phases : List Phase) : .close ∉ (progress.passAll phases).effects := by
  refine passAll_induction (fun next => .close ∉ next.effects) sturdy phases unclosed
    fun next phase _ sturdyNext going unclosedNext => ?_
  rw [andThen_of_none going]
  simp [unclosedNext, close_not_mem_pass sturdyNext phase]

end Progress

/-! ## Frames -/

/-- The phases of a frame. -/
def phasesOf (events : List HostEvent) : List Phase :=
  .tick :: (events.map .handle ++ [.step, .draw])

theorem handleAll_eq (session : Session) (events : List HostEvent) :
    session.handleAll events = session.idle.passAll (events.map .handle) := by
  rw [handleAll, Progress.passAll, List.foldl_map]
  rfl

/-- A frame is its phases one behind the other. -/
theorem frame_eq (session : Session) (events : List HostEvent) :
    session.frame events = session.idle.passAll (phasesOf events) := by
  have handled : (⟨session, [.tick session.rate], none⟩ : Progress).andThen (·.handleAll events) =
      (⟨session, [.tick session.rate], none⟩ : Progress).passAll (events.map .handle) := by
    simp only [handleAll_eq]
    rw [Progress.andThen_passAll, Progress.andThen_idle]
  rw [frame, handled, phasesOf, Progress.passAll_cons, Progress.passAll_append]
  rfl

theorem Progress.andThen_frame (progress : Progress) (events : List HostEvent) :
    progress.andThen (·.frame events) = progress.passAll (phasesOf events) := by
  simp only [frame_eq]
  rw [Progress.andThen_passAll, Progress.andThen_idle]

/-- Plays one frame after the other. -/
def Progress.play (progress : Progress) (frames : List (List HostEvent)) : Progress :=
  frames.foldl (fun progress events => progress.andThen (·.frame events)) progress

theorem Progress.play_eq (progress : Progress) (frames : List (List HostEvent)) :
    progress.play frames = progress.passAll (frames.flatMap phasesOf) := by
  induction frames generalizing progress with
  | nil => rfl
  | cons events rest ih =>
    have first : progress.play (events :: rest) = (progress.andThen (·.frame events)).play rest :=
      rfl
    rw [first, ih, andThen_frame, List.flatMap_cons, passAll_append]

/-- A frame ends with a step and the drawing. -/
theorem Progress.play_last (progress : Progress) {frames : List (List HostEvent)}
    (some : frames ≠ []) :
    ∃ phases, progress.play frames =
      ((progress.passAll phases).andThen (·.pass .step)).andThen (·.pass .draw) := by
  obtain ⟨earlier, last, split⟩ : ∃ earlier last, frames = earlier ++ [last] :=
    ⟨_, _, (List.dropLast_concat_getLast some).symm⟩
  refine ⟨earlier.flatMap phasesOf ++ .tick :: last.map .handle, ?_⟩
  rw [play_eq, split, List.flatMap_append, List.flatMap_singleton, phasesOf, ← List.cons_append,
    ← List.append_assoc, passAll_append]
  rfl

/-- Closes the window. -/
def close (session : Session) : Progress := ⟨session, [.close], none⟩

/-- The frames that are played: those of the script up to the one in which the session is left, or all
of them and one more in which the host asks to quit. -/
def played : List (List HostEvent) → List (List HostEvent)
  | [] => [[.quit]]
  | events :: rest => events :: if events.any HostEvent.leaves then [] else played rest

theorem any_leaves_phasesOf (events : List HostEvent) :
    (phasesOf events).any Phase.leaves = events.any HostEvent.leaves := by
  simp [phasesOf, Phase.leaves, Function.comp_def]

/-- A session that runs plays its frames and then closes the window. -/
theorem Progress.frames_eq {progress : Progress} (sturdy : progress.session.Sturdy)
    (running : progress.session.running = true) (script : List (List HostEvent)) :
    progress.andThen (·.frames script) = (progress.play (played script)).andThen close := by
  rw [play_eq]
  induction script generalizing progress with
  | nil =>
    simp only [frames, played, List.flatMap_cons, List.flatMap_nil, List.append_nil]
    rw [← andThen_frame, andThen_assoc]
    rfl
  | cons events rest ih =>
    have first : progress.andThen (·.frames (events :: rest)) =
        (progress.passAll (phasesOf events)).andThen fun session =>
          if session.running then session.frames rest else session.close := by
      rw [← andThen_frame, andThen_assoc]
      rfl
    rw [first, played, List.flatMap_cons, passAll_append]
    -- The first frame breaks the session off, or it is left in it, or the rest is played.
    cases going : (progress.passAll (phasesOf events)).error with
    | some error => rw [andThen_of_error going, passAll_of_error going, andThen_of_error going]
    | none =>
      have runs := passAll_running sturdy going
      rw [running, any_leaves_phasesOf, Bool.true_and] at runs
      cases left : events.any HostEvent.leaves with
      | true =>
        rw [left] at runs
        exact andThen_congr (by rw [runs]; rfl)
      | false =>
        rw [left] at runs
        rw [if_neg Bool.false_ne_true, ← ih (passAll_sturdy sturdy _) runs]
        exact andThen_congr (by rw [runs]; rfl)

/-! ## The start -/

/-- The session once its window is open. -/
def opened (options : SessionOptions) (program : Program) (terminal : Bool) (clock : Log.Clock) :
    Except SessionError Progress :=
  (load options (some program) terminal clock).map (·.andThen (openWindow options.path))

/-- How a session starts. Its machine is fresh but for the program, and its logger shows colours if there
is a terminal, and the time since the first reading of the clock. -/
structure Begun (options : SessionOptions) (program : Program) (terminal : Bool) (clock : Log.Clock)
    (random : RandomKey) (start : Progress) : Prop where
  error : start.error = none
  machine : start.session.machine = (Machine.fresh random options.strict).after [.load program]
  program : start.session.program = program
  level : Log.Level.ofName? options.logLevel = some start.session.logger.level
  logger : start.session.logger =
    ⟨"chip8", start.session.logger.level, terminal, true, clock.read.1⟩
  palette : Palette.ofName? options.palette = some start.session.palette
  scale : start.session.scale = options.scale
  running : start.session.running = true
  unclosed : .close ∉ start.effects

theorem close_not_mem_openWindow (path : String) (session : Session) :
    .close ∉ (session.openWindow path).effects := by
  intro member
  simp only [openWindow, List.mem_append, List.mem_cons, List.not_mem_nil, or_false] at member
  rcases member with (isOpen | isSize | isCaption) | line
  · cases isOpen
  · cases isSize
  · cases isCaption
  · obtain ⟨text, isPrint⟩ := printed_prints line
    cases isPrint

/-- A session whose options are valid is opened. -/
theorem exists_opened {options : SessionOptions} {program : Program} (valid : options.Valid program)
    (terminal : Bool) (clock : Log.Clock) :
    ∃ random start, RandomKey.ofSeed? options.seed = some random ∧
      opened options program terminal clock = .ok start ∧
      Begun options program terminal clock random start := by
  obtain ⟨level, named⟩ := Option.isSome_iff_exists.mp valid.level
  obtain ⟨palette, coloured⟩ := Option.isSome_iff_exists.mp valid.palette
  obtain ⟨random, seeded⟩ : ∃ random, RandomKey.ofSeed? options.seed = some random :=
    ⟨_, if_pos valid.seed⟩
  let logger : Log.Logger := ⟨"chip8", level, terminal, true, clock.read.1⟩
  have created : Log.Logger.create? "chip8" options.logLevel true terminal true clock =
      some (logger, clock.read.2) := by
    rw [Log.Logger.create?, named]
    rfl
  let session : Session := {
    machine := Machine.fresh random options.strict
    program, logger, palette
    clock := clock.read.2
    scale := options.scale, rate := options.rate
    paused := false, running := true }
  have loads : session.operate (·.load program) = session.obeying [.load program] false true none :=
    @load_eq session valid.fits
  have loaded : load options (some program) terminal clock =
      .ok (session.obeying [.load program] false true none) := by
    rw [← loads, load, created, coloured, seeded]
    rfl
  refine ⟨random, (session.obeying [.load program] false true none).andThen
    (openWindow options.path), seeded, by rw [opened, loaded]; rfl, ?_⟩
  have going : (session.obeying [.load program] false true none).error = none := rfl
  rw [Progress.andThen_of_none going]
  exact {
    error := rfl
    machine := rfl
    program := rfl
    level := named
    logger := rfl
    palette := coloured
    scale := rfl
    running := rfl
    unclosed := fun member => by
      rcases List.mem_append.mp member with announced | opening
      · obtain ⟨text, isPrint⟩ := announceAll_prints announced
        cases isPrint
      · exact close_not_mem_openWindow _ _ opening }

theorem Begun.sturdy {options : SessionOptions} {program : Program} {terminal : Bool}
    {clock : Log.Clock} {random : RandomKey} {start : Progress}
    (begun : Begun options program terminal clock random start)
    (valid : options.Valid program) : start.session.Sturdy where
  fits := by
    rw [begun.program]
    exact valid.fits
  colours := Palette.fits_of_ofName? begun.palette
  scale := by
    rw [begun.scale]
    exact valid.scale

/-- A session that is opened plays its frames and closes the window. -/
theorem run_eq {options : SessionOptions} {program : Program} {terminal : Bool} {clock : Log.Clock}
    {start : Progress} (opens : opened options program terminal clock = .ok start)
    (sturdy : start.session.Sturdy) (running : start.session.running = true)
    (script : List (List HostEvent)) :
    run options (some program) terminal clock script =
      let ended := (start.play (played script)).andThen close
      (ended.effects, ended.error) := by
  rw [← Progress.frames_eq sturdy running]
  rw [opened] at opens
  rw [run]
  cases loaded : load options (some program) terminal clock with
  | error error =>
    rw [loaded] at opens
    cases opens
  | ok progress =>
    rw [loaded] at opens
    cases opens
    rfl

end Session

end Chip8
