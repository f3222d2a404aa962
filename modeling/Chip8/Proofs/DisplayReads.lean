import Chip8.Proofs.Run
import Mathlib.Data.List.Induction

/-!
# What a host sees of the display

A host need not read a display that is not marked as written: it has seen every cell of it already.
For this every change of the display has to set the mark and only a read may clear it, and a draw
that faults has to take back the mark with the cells.

Results:
1. `Sound.dirty_step`, `Sound.display_step`: what a step does to the mark and to the display.
2. `Sound.dirty_obey`, `Sound.display_obey`: the same for every operation.
3. `read_of_clean`: an unmarked display is the one that was read last.
4. `clean_display_as_read`: the rules of the mark for every run.
-/

namespace Chip8

/-- The instruction writes the display. -/
def Instruction.draws : Instruction → Bool
  | .clearScreen | .draw .. => true
  | _ => false

namespace State

/-- The next step writes the display, with an instruction that is kept. -/
def draws (state : State) : Bool :=
  state.committed?.any Instruction.draws

variable {state : State}

theorem draws_of_committed_none (committed : state.committed? = none) : state.draws = false := by
  rw [draws, committed]
  rfl

/-- A step marks the display if it writes it, and leaves the mark otherwise. -/
theorem Sound.dirty_step (sound : state.Sound) :
    state.step.dirty = (state.draws || state.dirty) := by
  cases sound.stepOutcome with
  | kept instruction committed read result =>
    rw [result, draws, committed, tickIfRunning_eq, executedWith]
    simp only [performWith_dirty, read]
    cases instruction <;> rfl
  | resolved _ committed _ result | idle committed _ result | discarded _ committed _ result =>
    rw [result, draws_of_committed_none committed]
    rfl

/-- A step that does not write the display leaves all its cells. -/
theorem Sound.display_step (sound : state.Sound) (undrawn : state.draws = false) :
    state.step.display = state.display := by
  cases sound.stepOutcome with
  | kept instruction committed read result =>
    rw [draws, committed] at undrawn
    rw [result, tickIfRunning_eq, executedWith]
    simp only [performWith_display, read]
    cases instruction with
    | clearScreen | draw => cases undrawn
    | _ => rfl
  | resolved _ _ _ result | idle _ _ result | discarded _ _ _ result =>
    rw [result]
    rfl

end State

namespace Machine

variable {machine : Machine}

/-! ## Operations and runs -/

/-- The operation writes the display. -/
def draws (machine : Machine) : Command → Bool
  | .reset => true
  | .step => machine.state.draws
  | _ => false

/-- Writing the display marks it, reading it clears the mark, and nothing else changes the mark. -/
theorem Sound.dirty_obey (sound : machine.state.Sound) (command : Command) :
    (machine.obey command).machine.displayDirty =
      if command = .readDisplay then false else machine.draws command || machine.displayDirty := by
  simp only [displayDirty]
  cases command with
  | step =>
    rw [Sound.obey_step sound, sound.dirty_step]
    rfl
  | load program =>
    rw [obey_state]
    simp only [load_state]
    rfl
  | keyDown key | keyUp key =>
    rw [obey_state]
    simp only [setKey_state]
    rfl
  | reset | displayDirty | readDisplay | soundActive => rfl

theorem Sound.display_obey (sound : machine.state.Sound) {command : Command}
    (undrawn : machine.draws command = false) :
    (machine.obey command).machine.state.display = machine.state.display := by
  cases command with
  | reset => cases undrawn
  | step =>
    rw [Sound.obey_step sound]
    exact sound.display_step undrawn
  | _ => rw [obey_state_of_ne _ (by simp) (by simp)]

/-- A read answers with the display as it is. -/
theorem obey_readDisplay_result :
    (machine.obey .readDisplay).result = .ok (.cells machine.state.display) :=
  rfl

/-- An operation other than a read that leaves the display unmarked found it so and did not write
it. -/
theorem undrawn_of_clean (sound : machine.state.Sound) {command : Command}
    (notRead : command ≠ .readDisplay)
    (clean : (machine.obey command).machine.displayDirty = false) :
    machine.draws command = false ∧ machine.displayDirty = false := by
  rw [Sound.dirty_obey sound, if_neg notRead, Bool.or_eq_false_iff] at clean
  exact clean

/-- A display that is unmarked behind a run was unmarked before it or was read on the way, and it is
the one that was there or was read last. -/
theorem read_of_clean (sound : machine.state.Sound) (marked : machine.displayDirty = true)
    (commands : List Command) (clean : (machine.after commands).displayDirty = false) :
    ∃ before rest, commands = before ++ .readDisplay :: rest ∧ .readDisplay ∉ rest ∧
      ((machine.after before).obey .readDisplay).result =
        .ok (.cells (machine.after commands).state.display) := by
  induction commands using List.reverseRecOn with
  | nil => cases marked.symm.trans clean
  | append_singleton earlier command ih =>
    have taken : machine.after (earlier ++ [command]) =
        ((machine.after earlier).obey command).machine := after_append earlier [command]
    have soundEarlier := sound_after sound earlier
    by_cases isRead : command = .readDisplay
    · subst isRead
      exact ⟨earlier, [], rfl, List.not_mem_nil, by rw [taken]; rfl⟩
    · rw [taken] at clean ⊢
      obtain ⟨undrawn, cleanEarlier⟩ := undrawn_of_clean soundEarlier isRead clean
      obtain ⟨before, rest, split, lastRead, answer⟩ := ih cleanEarlier
      refine ⟨before, rest ++ [command], ?_, ?_, ?_⟩
      · rw [split, List.append_assoc, List.cons_append]
      · simpa [lastRead] using Ne.symm isRead
      · rw [answer, Sound.display_obey soundEarlier undrawn]

/-- A run that does not write the display leaves all its cells. -/
theorem display_after (sound : machine.state.Sound) {commands : List Command}
    (undrawn : ∀ before command rest, commands = before ++ command :: rest →
      (machine.after before).draws command = false) :
    (machine.after commands).state.display = machine.state.display := by
  induction commands generalizing machine with
  | nil => rfl
  | cons command rest ih =>
    have first := Sound.display_obey sound (undrawn [] command rest rfl)
    have later := ih (Sound.obey sound command) fun before next behind split =>
      undrawn (command :: before) next behind (congrArg (command :: ·) split)
    rw [after_cons, later, first]

end Machine

/-- The mark on the display can be trusted. Whenever a machine's display is unmarked it was read
before, and its cells are those of the last read. Only a read takes the mark away, whatever else is
asked and whether or not it fails. And a read that follows another with nothing drawn in between
answers the same. -/
theorem clean_display_as_read :
    (∀ random strict commands,
      let machine := Machine.fresh random strict
      (machine.after commands).displayDirty = false →
      ∃ before rest, commands = before ++ .readDisplay :: rest ∧ .readDisplay ∉ rest ∧
        ((machine.after before).obey .readDisplay).result =
          .ok (.cells (machine.after commands).state.display)) ∧
    (∀ (machine : Machine) (command : Machine.Command), machine.state.Reachable →
      machine.displayDirty = true → (machine.obey command).machine.displayDirty = false →
      command = .readDisplay) ∧
    (∀ (machine : Machine) (between : List Machine.Command), machine.state.Reachable →
      let read := machine.obey .readDisplay
      (∀ before command rest, between = before ++ command :: rest →
        (read.machine.after before).draws command = false) →
      ((read.machine.after between).obey .readDisplay).result = read.result) := by
  refine ⟨fun random strict commands => ?_, fun machine command reached marked clean => ?_,
    fun machine between reached undrawn => ?_⟩
  · have start : (Machine.fresh random strict).state.Sound := State.sound_initial random
    exact Machine.read_of_clean start rfl commands
  · by_contra notRead
    have unmarked := (Machine.undrawn_of_clean reached.sound notRead clean).2
    cases marked.symm.trans unmarked
  · have sound := Machine.Sound.obey reached.sound .readDisplay
    rw [Machine.obey_readDisplay_result, Machine.display_after sound undrawn]
    rfl

/-- A machine that has drawn a glyph and goes on in a loop. -/
def Machine.drawn : Machine :=
  (Machine.fresh ⟨0, 0⟩ false).after
    [.load #[0xA0, 0x50, 0xD0, 0x05, 0x12, 0x04], .step, .step]

/-- The drawn glyph marks the display until it is read, and the loop does not mark it again. -/
theorem clean_display_as_read_drawn :
    let run : List Machine.Command :=
      [.load #[0xA0, 0x50, 0xD0, 0x05, 0x12, 0x04], .step, .step, .readDisplay, .step, .keyDown 3]
    Machine.drawn.state.Reachable ∧
    Machine.drawn.displayDirty = true ∧
    (Machine.drawn.obey .readDisplay).machine.displayDirty = false ∧
    (Machine.drawn.obey .step).machine.displayDirty = true ∧
    ((Machine.fresh ⟨0, 0⟩ false).after run).displayDirty = false ∧
    (∃ before rest, run = before ++ .readDisplay :: rest ∧ .readDisplay ∉ rest ∧
      (((Machine.fresh ⟨0, 0⟩ false).after before).obey .readDisplay).result =
        .ok (.cells ((Machine.fresh ⟨0, 0⟩ false).after run).state.display)) ∧
    (((Machine.drawn.obey .readDisplay).machine.after [.step, .keyDown 3]).obey
      .readDisplay).result = (Machine.drawn.obey .readDisplay).result := by
  intro run
  have reached : Machine.drawn.state.Reachable := ⟨_, _, _, rfl⟩
  obtain ⟨marked, clean, cleanRun, loops⟩ :
      Machine.drawn.displayDirty = true ∧
      (Machine.drawn.obey .readDisplay).machine.displayDirty = false ∧
      ((Machine.fresh ⟨0, 0⟩ false).after run).displayDirty = false ∧
      (Machine.drawn.obey .readDisplay).machine.draws .step = false := by
    decide +kernel
  obtain ⟨lastRead, cleared, readTwice⟩ := clean_display_as_read
  have kept : (Machine.drawn.obey .step).machine.displayDirty = true := by
    rw [← Bool.not_eq_false]
    intro lost
    cases cleared Machine.drawn .step reached marked lost
  have same := readTwice Machine.drawn [.step, .keyDown 3] reached
    fun before command rest split => ?_
  · exact ⟨reached, marked, clean, kept, cleanRun, lastRead _ _ run cleanRun, same⟩
  · rcases before with _ | ⟨first, _ | ⟨second, before⟩⟩
    · obtain ⟨rfl, -⟩ := List.cons.inj split
      exact loops
    · obtain ⟨-, tail⟩ := List.cons.inj split
      obtain ⟨rfl, -⟩ := List.cons.inj tail
      rfl
    · simp at split

end Chip8
