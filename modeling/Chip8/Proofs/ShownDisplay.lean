import Chip8.Proofs.DisplayReads
import Chip8.Proofs.Frames

/-!
# The window shows the display

A session draws the display only when it is marked as written. Whatever happens in a frame, behind it
the surface that was shown last shows the display as it is then.

Results:
1. `kept_of_clean`: commands without a read that leave the display unmarked leave its cells.
2. `UpToDate.pass`: in each phase the display is marked, or the last surface shows it.
3. `UpToDate.shows_of_frames`, `window_shows_display`: behind each frame the last surface shows it.
-/

namespace Chip8

/-- Commands without a read that leave the display unmarked found it so and left its cells. -/
theorem Machine.kept_of_clean {machine : Machine} (sound : machine.state.Sound)
    {commands : List Machine.Command} (unread : .readDisplay ∉ commands)
    (clean : (machine.after commands).displayDirty = false) :
    machine.displayDirty = false ∧
      (machine.after commands).state.display = machine.state.display := by
  induction commands generalizing machine with
  | nil => exact ⟨clean, rfl⟩
  | cons command rest ih =>
    rw [List.mem_cons, not_or] at unread
    obtain ⟨cleanNext, keptNext⟩ := ih (Machine.Sound.obey sound command) unread.2 clean
    obtain ⟨undrawn, cleanBefore⟩ := Machine.undrawn_of_clean sound (Ne.symm unread.1) cleanNext
    exact ⟨cleanBefore, keptNext.trans (Machine.Sound.display_obey sound undrawn)⟩

namespace Session

/-- The surface that was shown last shows the display as it is. -/
def Shows (progress : Progress) : Prop :=
  ∃ before surface rest,
    progress.effects = before ++ .show surface :: rest ∧ (∀ other, .show other ∉ rest) ∧
    surface.Depicts progress.session.machine.state.display progress.session.scale.toNat
      progress.session.palette

/-- A session that shows its display unless that is marked as written. -/
structure UpToDate (progress : Progress) : Prop where
  sound : progress.session.machine.state.Sound
  shows : progress.session.machine.displayDirty = false → Shows progress

theorem unread_of_ne_draw (session : Session) {phase : Phase} (notDraw : phase ≠ .draw) :
    .readDisplay ∉ session.asks phase := by
  intro member
  cases asked_of_mem member
  exact notDraw rfl

namespace UpToDate

variable {progress : Progress}

/-- A surface stays the last one in a phase that does not draw, and it still shows the display if that is
not marked then. -/
theorem shows_of_ne_draw (upToDate : UpToDate progress) (sturdy : progress.session.Sturdy)
    (going : progress.error = none) {phase : Phase} (notDraw : phase ≠ .draw)
    (clean : (progress.andThen (·.pass phase)).session.machine.displayDirty = false) :
    Shows (progress.andThen (·.pass phase)) := by
  rw [Progress.andThen_of_none going] at clean ⊢
  have leads := pass_leads sturdy phase
  rw [leads.machine] at clean
  obtain ⟨cleanBefore, kept⟩ :=
    Machine.kept_of_clean upToDate.sound (unread_of_ne_draw _ notDraw) clean
  obtain ⟨before, surface, rest, split, last, depicts⟩ := upToDate.shows cleanBefore
  refine ⟨before, surface, rest ++ (progress.session.pass phase).effects, ?_, ?_, ?_⟩
  · simp only [split, List.append_assoc, List.cons_append]
  · intro other member
    rcases List.mem_append.mp member with earlier | later
    · exact last other earlier
    · exact show_not_mem_pass sturdy notDraw other later
  · simp only [leads.scale, leads.palette, leads.machine, kept]
    exact depicts

/-- A display that is drawn is shown and no longer marked. -/
theorem drawn (upToDate : UpToDate progress) (sturdy : progress.session.Sturdy)
    (going : progress.error = none) :
    (progress.andThen (·.pass .draw)).session.machine.displayDirty = false ∧
      Shows (progress.andThen (·.pass .draw)) := by
  rw [Progress.andThen_of_none going, pass]
  cases dirty : progress.session.machine.displayDirty with
  | false =>
    rw [draw_of_clean dirty, idle, List.append_nil]
    exact ⟨dirty, upToDate.shows dirty⟩
  | true =>
    obtain ⟨surface, drawn, depicts⟩ := draw_of_dirty sturdy dirty
    rw [drawn]
    exact ⟨rfl, progress.effects, surface, [.flip], rfl, by simp, depicts⟩

/-- Each phase leaves the display marked or shown. -/
theorem pass (upToDate : UpToDate progress) (sturdy : progress.session.Sturdy)
    (going : progress.error = none) (phase : Phase) :
    UpToDate (progress.andThen (·.pass phase)) := by
  have leads := pass_leads sturdy phase
  have next : (progress.andThen (·.pass phase)).session = (progress.session.pass phase).session := by
    rw [Progress.andThen_of_none going]
  refine ⟨?_, fun clean => ?_⟩
  · rw [next, leads.machine]
    exact Machine.sound_after upToDate.sound _
  · by_cases isDraw : phase = .draw
    · subst isDraw
      exact (upToDate.drawn sturdy going).2
    · exact upToDate.shows_of_ne_draw sturdy going isDraw clean

theorem passAll (upToDate : UpToDate progress) (sturdy : progress.session.Sturdy)
    (phases : List Phase) : UpToDate (progress.passAll phases) :=
  Progress.passAll_induction UpToDate sturdy phases upToDate fun _ phase _ sturdy going upToDate =>
    upToDate.pass sturdy going phase

/-- Behind each frame the display is shown. -/
theorem shows_of_frames (upToDate : UpToDate progress) (sturdy : progress.session.Sturdy)
    {frames : List (List HostEvent)} (some : frames ≠ [])
    (going : (progress.play frames).error = none) : Shows (progress.play frames) := by
  obtain ⟨phases, ended⟩ := progress.play_last some
  have sturdyBefore := Progress.passAll_sturdy sturdy phases
  rw [ended] at going ⊢
  have goingStep := Progress.going_of_andThen going
  have goingBefore := Progress.going_of_andThen goingStep
  have stepped := (upToDate.passAll sturdy phases).pass sturdyBefore goingBefore .step
  exact (stepped.drawn (Progress.andThen_sturdy sturdyBefore goingBefore .step) goingStep).2

theorem of_begun {options : SessionOptions} {program : Program} {terminal : Bool}
    {clock : Log.Clock} {random : RandomKey}
    (begun : Begun options program terminal clock random progress) : UpToDate progress := by
  have sound : (Machine.fresh random options.strict).state.Sound := State.sound_initial random
  have marked : (Machine.fresh random options.strict).displayDirty = true := rfl
  refine ⟨?_, fun clean => ?_⟩
  · rw [begun.machine]
    exact Machine.sound_after sound _
  · -- The display of a fresh machine is marked, and loading leaves the mark.
    rw [begun.machine] at clean
    cases marked.symm.trans (Machine.kept_of_clean sound (by simp) clean).1

end UpToDate

end Session

/-- The window always shows the machine's display. A session with valid options is opened and plays its
frames, whatever the program and the events are; and at the end of each frame in which it does not
break off a surface has been shown, and the one that was shown last has the display's size at the
scale and in each of its pixels the colour of the cell of the machine's display that the pixel lies
in. -/
theorem window_shows_display (options : SessionOptions) (program : Program) (terminal : Bool)
    (clock : Log.Clock) (valid : options.Valid program) :
    ∃ start palette,
      Session.opened options program terminal clock = .ok start ∧ start.error = none ∧
      Palette.ofName? options.palette = some palette ∧
      (∀ script, Session.run options (some program) terminal clock script =
        let ended := (start.play (Session.played script)).andThen Session.close
        (ended.effects, ended.error)) ∧
      ∀ frames, frames ≠ [] →
        let now := start.play frames
        now.error = none →
        ∃ before surface rest,
          now.effects = before ++ .show surface :: rest ∧ (∀ other, .show other ∉ rest) ∧
          surface.Depicts now.session.machine.state.display options.scale.toNat palette := by
  obtain ⟨random, start, -, opens, begun⟩ := Session.exists_opened valid terminal clock
  have sturdy := begun.sturdy valid
  refine ⟨start, start.session.palette, opens, begun.error, begun.palette,
    Session.run_eq opens sturdy begun.running, fun frames some going => ?_⟩
  obtain ⟨commands, leads⟩ := Session.Progress.passAll_leads sturdy (frames.flatMap Session.phasesOf)
  obtain ⟨before, surface, rest, split, last, depicts⟩ :=
    (Session.UpToDate.of_begun begun).shows_of_frames sturdy some going
  refine ⟨before, surface, rest, split, last, ?_⟩
  rw [Session.Progress.play_eq] at depicts ⊢
  rw [leads.scale, begun.scale, leads.palette] at depicts
  exact depicts

/-- A window of twice the display's size, amber on black. -/
def SessionOptions.amber : SessionOptions where
  path := "zero.ch8"
  scale := 2
  rate := 60
  seed := 7
  palette := "amber"
  strict := false
  logLevel := "INFO"

/-- Draws the digit zero in the corner of the display and goes on in a loop. -/
def zeroProgram : Program := #[0xA0, 0x00, 0xD0, 0x05, 0x12, 0x04]

/-- Behind three frames the digit is in the window, in squares of two by two pixels. -/
theorem window_shows_display_amber :
    SessionOptions.amber.Valid zeroProgram ∧
    ∃ start,
      Session.opened SessionOptions.amber zeroProgram false (Log.Clock.still 0) = .ok start ∧
      let now := start.play [[], [.other], [.keyDown .pause]]
      now.error = none ∧
      ∃ before surface rest,
        now.effects = before ++ .show surface :: rest ∧ (∀ other, .show other ∉ rest) ∧
        surface.width = 128 ∧ surface.height = 64 ∧
        (surface.pixel? 1 1).map Colour.tint = some ⟨255, 176, 0⟩ ∧
        (surface.pixel? 8 0).map Colour.tint = some ⟨0, 0, 0⟩ := by
  have valid : SessionOptions.amber.Valid zeroProgram :=
    ⟨by decide, by decide, by decide, by decide, by decide⟩
  obtain ⟨start, palette, opens, -, named, -, shows⟩ :=
    window_shows_display SessionOptions.amber zeroProgram false (Log.Clock.still 0) valid
  have amber : palette = ⟨⟨255, 176, 0⟩, ⟨0, 0, 0⟩⟩ :=
    Option.some.inj (named.symm.trans (by decide))
  have computed :
      (Session.opened SessionOptions.amber zeroProgram false (Log.Clock.still 0)).toOption.any
        (fun start =>
          let now := start.play [[], [.other], [.keyDown .pause]]
          decide (now.error = none ∧ now.session.machine.state.display[0]? = some true ∧
            now.session.machine.state.display[4]? = some false)) = true := by
    decide +kernel
  rw [opens] at computed
  obtain ⟨going, lit, dark⟩ := of_decide_eq_true computed
  obtain ⟨before, surface, rest, split, last, depicts⟩ := shows _ (by simp) going
  refine ⟨valid, start, opens, going, before, surface, rest, split, last, depicts.width,
    depicts.height, ?_, ?_⟩
  · have cell : 1 / SessionOptions.amber.scale.toNat * 64 +
        1 / SessionOptions.amber.scale.toNat = 0 := by
      decide
    rw [depicts.pixel 1 1 (by decide) (by decide), cell, lit, if_pos rfl, amber]
  · have cell : 0 / SessionOptions.amber.scale.toNat * 64 +
        8 / SessionOptions.amber.scale.toNat = 4 := by
      decide
    rw [depicts.pixel 8 0 (by decide) (by decide), cell, dark, if_neg (by decide), amber]

end Chip8
