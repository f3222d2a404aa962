import Chip8.Proofs.Independence
import Chip8.Proofs.Run
import Mathlib.Logic.Function.Iterate

/-!
# The random stream of a machine

A machine draws its random bytes from the stream that it was made with, one for each random
instruction that it keeps, and a reset starts the stream again. Nothing else moves the stream, so
that the bytes of a run depend on the key of the stream alone, whatever the program is and whatever
the host does.

Results:
1. `Sound.random_step`, `Sound.random_obey`: what moves the stream.
2. `Sound.register_step_of_random`: what a random instruction stores.
3. `Drawn.obey`, `drawn_after`: the bytes that a run has taken since its last reset.
4. `random_isolated`: the bytes are those of the stream in their order, the same in every run.
-/

namespace Chip8

/-- The byte of a stream at a place. -/
def RandomKey.byteAt (key : RandomKey) (place : Nat) : UInt8 :=
  RandomKey.byte (RandomKey.next^[place] key)

/-- A byte that a random instruction took. -/
structure Taken where
  /-- The byte as it was drawn, before it was masked. -/
  byte : UInt8
  mask : UInt8
  /-- What the instruction left in its register. -/
  stored : UInt8
deriving DecidableEq, Repr

namespace State

/-- The byte that the next step takes, if it keeps a random instruction. -/
def taken? (state : State) : Option Taken :=
  match state.committed? with
  | some (.random x mask) => some ⟨RandomKey.byte state.random, mask, state.step.register x⟩
  | _ => none

variable {state : State}

theorem taken?_of_committed_none (committed : state.committed? = none) : state.taken? = none := by
  rw [taken?, committed]

/-- Only a random instruction that is kept moves the stream, by one byte. -/
theorem Sound.random_step (sound : state.Sound) :
    state.step.random =
      if state.taken?.isSome then RandomKey.next state.random else state.random := by
  cases sound.stepOutcome with
  | kept instruction committed read result =>
    rw [result, taken?, committed, tickIfRunning_eq, executedWith]
    simp only [performWith_random, read]
    cases instruction <;> rfl
  | resolved _ committed _ result | idle committed _ result | discarded _ committed _ result =>
    rw [result, taken?_of_committed_none committed]
    rfl

/-- A random instruction that is kept stores the byte that the stream yields next, masked. -/
theorem Sound.register_step_of_random (sound : state.Sound) {x : Fin 16} {mask : UInt8}
    (committed : state.committed? = some (.random x mask)) :
    state.step.register x = RandomKey.byte state.random &&& mask := by
  have stored : (state.clearReports.executedWith Edge.last).registers =
      putCell state.registers x (RandomKey.byte state.random &&& mask) := by
    rw [executedWith, fetchedInstruction_clearReports, sound.read_of_committed committed]
    rfl
  rw [step_of_committed committed, tickIfRunning_eq, register, stored, cellAt_putCell, if_pos rfl]

theorem Sound.of_taken (sound : state.Sound) {taken : Taken} (takes : state.taken? = some taken) :
    taken.byte = RandomKey.byte state.random ∧ taken.stored = taken.byte &&& taken.mask := by
  unfold taken? at takes
  split at takes
  · next x mask committed =>
    obtain rfl := Option.some.inj takes
    exact ⟨rfl, sound.register_step_of_random committed⟩
  · cases takes

/-- A fetch past memory takes no byte, whatever word it reads there. -/
theorem Sound.random_step_of_pastMemory (sound : state.Sound)
    (healthy : state.fault = Fault.healthy) (running : state.mode = Mode.running)
    (past : 0xFFE < state.pc.toNat) :
    state.step.fault = Fault.memory.code ∧ state.step.random = state.random := by
  rw [State.step, stepWith_of_pastMemory sound healthy running past]
  exact ⟨rfl, rfl⟩

end State

namespace Machine

variable {machine : Machine}

/-! ## Operations -/

theorem Sound.random_obey (sound : machine.state.Sound) (command : Command) :
    (machine.obey command).machine.state.random =
      match command with
      | .reset => machine.random
      | .step =>
        if machine.state.taken?.isSome then RandomKey.next machine.state.random
        else machine.state.random
      | _ => machine.state.random := by
  cases command with
  | reset => rfl
  | step => rw [Sound.obey_step sound, sound.random_step]
  | _ => rw [obey_state_of_ne _ (by simp) (by simp)]

/-! ## Runs -/

/-- The bytes taken since the last reset after an operation, given those before it. -/
def takenAfter (machine : Machine) (taken : List Taken) : Command → List Taken
  | .reset => []
  | .step => taken ++ machine.state.taken?.toList
  | _ => taken

/-- The bytes taken since the last reset after a run, given those before it. -/
def takenSince (machine : Machine) (taken : List Taken) : List Command → List Taken
  | [] => taken
  | command :: rest =>
    (machine.obey command).machine.takenSince (machine.takenAfter taken command) rest

/-- The bytes that were taken are the first ones of the machine's stream, each stored under its mask,
and the rest of the stream is still to come. -/
structure Drawn (machine : Machine) (taken : List Taken) : Prop where
  random : machine.state.random = RandomKey.next^[taken.length] machine.random
  bytes : ∀ place entry, taken[place]? = some entry →
    entry.byte = RandomKey.byteAt machine.random place ∧ entry.stored = entry.byte &&& entry.mask

theorem drawn_fresh (random : RandomKey) (strict : Bool) : (fresh random strict).Drawn [] where
  random := rfl
  bytes place entry found := by simp at found

/-- One more byte is the next one of the stream. -/
theorem Drawn.concat {taken : List Taken} (drawn : machine.Drawn taken)
    (sound : machine.state.Sound) {entry : Taken} (takes : machine.state.taken? = some entry)
    (place : Nat) (found : Taken) (listed : (taken ++ [entry])[place]? = some found) :
    found.byte = RandomKey.byteAt machine.random place ∧
      found.stored = found.byte &&& found.mask := by
  rcases Nat.lt_trichotomy place taken.length with earlier | last | beyond
  · rw [List.getElem?_append_left earlier] at listed
    exact drawn.bytes place found listed
  · rw [last, List.getElem?_concat_length] at listed
    obtain rfl := Option.some.inj listed
    obtain ⟨byte, stored⟩ := sound.of_taken takes
    refine ⟨?_, stored⟩
    rw [byte, drawn.random, last, RandomKey.byteAt]
  · have outside : (taken ++ [entry]).length ≤ place := by
      rw [List.length_append, List.length_singleton]
      exact beyond
    rw [List.getElem?_eq_none outside] at listed
    cases listed

theorem Drawn.obey {taken : List Taken} (drawn : machine.Drawn taken)
    (sound : machine.state.Sound) (command : Command) :
    (machine.obey command).machine.Drawn (machine.takenAfter taken command) := by
  have sameKey : (machine.obey command).machine.random = machine.random := by rw [obey_machine]
  have moved := Sound.random_obey sound command
  cases command with
  | reset =>
    refine ⟨moved.trans sameKey.symm, fun place entry found => ?_⟩
    simp [takenAfter] at found
  | step =>
    simp only [takenAfter]
    cases takes : machine.state.taken? with
    | none =>
      rw [takes] at moved
      rw [Option.toList_none, List.append_nil]
      exact ⟨by rw [moved, sameKey]; exact drawn.random, sameKey ▸ drawn.bytes⟩
    | some entry =>
      rw [takes] at moved
      refine ⟨?_, fun place found listed => ?_⟩
      · rw [moved, sameKey, Option.toList_some, List.length_append, List.length_singleton,
          Function.iterate_succ_apply', ← drawn.random]
        rfl
      · rw [sameKey]
        exact drawn.concat sound takes place found listed
  | _ => exact ⟨by rw [moved, sameKey]; exact drawn.random, sameKey ▸ drawn.bytes⟩

theorem drawn_after {taken : List Taken} (drawn : machine.Drawn taken)
    (sound : machine.state.Sound) (commands : List Command) :
    (machine.after commands).Drawn (machine.takenSince taken commands) := by
  induction commands generalizing machine taken with
  | nil => exact drawn
  | cons command rest ih => exact ih (drawn.obey sound command) (Sound.obey sound command)

/-- The bytes that a run from the construction has taken since its last reset. -/
theorem drawn_after_fresh (random : RandomKey) (strict : Bool) (commands : List Command) :
    let taken := (fresh random strict).takenSince [] commands
    ((fresh random strict).after commands).state.random = RandomKey.next^[taken.length] random ∧
      ∀ place entry, taken[place]? = some entry →
        entry.byte = RandomKey.byteAt random place ∧
          entry.stored = entry.byte &&& entry.mask := by
  have start : (fresh random strict).state.Sound := State.sound_initial random
  have drawn := drawn_after (drawn_fresh random strict) start commands
  have sameKey : ((fresh random strict).after commands).random = random := by
    rw [after_machine]
    rfl
  refine ⟨?_, fun place entry found => ?_⟩
  · rw [drawn.random, sameKey]
  · rw [← sameKey]
    exact drawn.bytes place entry found

end Machine

/-- The random stream of a machine is its own. At any time the key of the machine's stream is the one
that it was made with, moved on once for each random instruction that was kept since the last reset,
and the byte that each of them took is the byte of the stream at its place, which it stored under its
mask. So in any two runs with the same key, whatever their programs and their hosts do, the bytes at
the same places are the same. Apart from such an instruction only a reset touches the stream; a step
that waits or faults leaves it, as does one that reads a random instruction past the end of memory. -/
theorem random_isolated :
    (∀ random strict commands,
      let machine := Machine.fresh random strict
      let taken := machine.takenSince [] commands
      (machine.after commands).state.random = RandomKey.next^[taken.length] random ∧
      ∀ place entry, taken[place]? = some entry →
        entry.byte = RandomKey.byteAt random place ∧
          entry.stored = entry.byte &&& entry.mask) ∧
    (∀ random strict strict' commands commands' (place : Nat) (entry entry' : Taken),
      ((Machine.fresh random strict).takenSince [] commands)[place]? = some entry →
      ((Machine.fresh random strict').takenSince [] commands')[place]? = some entry' →
      entry.byte = entry'.byte) ∧
    (∀ (state : State) (x : Fin 16) (mask : UInt8), state.Reachable →
      state.committed? = some (.random x mask) →
      state.step.register x = RandomKey.byte state.random &&& mask ∧
        state.step.random = RandomKey.next state.random) ∧
    (∀ (machine : Machine) (command : Machine.Command), machine.state.Reachable →
      command ≠ .reset →
      (∀ x mask, command = .step → machine.state.committed? ≠ some (.random x mask)) →
      (machine.obey command).machine.state.random = machine.state.random) ∧
    (∀ state : State, state.Reachable → state.fault = Fault.healthy → state.mode = Mode.running →
      0xFFE < state.pc.toNat →
      state.step.fault = Fault.memory.code ∧ state.step.random = state.random) := by
  refine ⟨Machine.drawn_after_fresh,
    fun random strict strict' commands commands' place entry entry' found found' => ?_,
    fun state x mask reached committed => ?_, fun machine command reached kept untaken => ?_,
    fun state reached healthy running past =>
      reached.sound.random_step_of_pastMemory healthy running past⟩
  · rw [((Machine.drawn_after_fresh random strict commands).2 place entry found).1,
      ((Machine.drawn_after_fresh random strict' commands').2 place entry' found').1]
  · have takes : state.taken?.isSome = true := by rw [State.taken?, committed]; rfl
    exact ⟨reached.sound.register_step_of_random committed,
      reached.sound.random_step.trans (if_pos takes)⟩
  · rw [Machine.Sound.random_obey reached.sound]
    cases command with
    | reset => exact absurd rfl kept
    | step =>
      have none : machine.state.taken? = none := by
        unfold State.taken?
        split
        · next x mask committed => exact absurd committed (untaken x mask rfl)
        · rfl
      rw [none]
      rfl
    | _ => rfl

/-- A machine about to draw a byte, which then goes to the last address and reads it twice as a word
for a random instruction. -/
def Machine.rolling : Machine :=
  (Machine.fresh ⟨0, 7⟩ false).after
    [.load #[0xC2, 0xFF, 0xAF, 0xFF, 0x60, 0xC5, 0xF0, 0x55, 0x1F, 0xFF]]

/-- The word read past memory takes no byte. Another program, on a strict machine with a key down,
draws the same byte under another mask. -/
theorem random_isolated_rolling :
    let run : List Machine.Command := [.load #[0xC2, 0xFF], .step, .step]
    let other : List Machine.Command :=
      [.keyDown 3, .load #[0x61, 0x05, 0xC1, 0x0F], .step, .displayDirty, .step]
    let past := Machine.rolling.after (List.replicate 5 .step)
    (∃ entry entry' : Taken,
      ((Machine.fresh ⟨0, 7⟩ false).takenSince [] run)[0]? = some entry ∧
      ((Machine.fresh ⟨0, 7⟩ true).takenSince [] other)[0]? = some entry' ∧
      entry.mask = 0xFF ∧ entry'.mask = 0x0F ∧ entry.byte = entry'.byte ∧
      entry.stored = RandomKey.byteAt ⟨0, 7⟩ 0 &&& 0xFF) ∧
    Machine.rolling.state.Reachable ∧
    Machine.rolling.state.committed? = some (.random 2 0xFF) ∧
    Machine.rolling.state.step.random = RandomKey.next Machine.rolling.state.random ∧
    past.state.Reachable ∧ past.state.fault = Fault.healthy ∧ past.state.mode = Mode.running ∧
    0xFFE < past.state.pc.toNat ∧
    past.state.fetchedInstruction Edge.last = .random 5 0xC5 ∧
    past.state.step.fault = Fault.memory.code ∧ past.state.step.random = past.state.random ∧
    (past.obey (.keyDown 3)).machine.state.random = past.state.random := by
  intro run other past
  have reached : Machine.rolling.state.Reachable := ⟨_, _, _, rfl⟩
  have reachedPast : past.state.Reachable := Machine.reachable_after _ _ _ _
  obtain ⟨rolls, healthy, running, beyond, reads⟩ :
      Machine.rolling.state.committed? = some (.random 2 0xFF) ∧
      past.state.fault = Fault.healthy ∧ past.state.mode = Mode.running ∧
      0xFFE < past.state.pc.toNat ∧
      past.state.fetchedInstruction Edge.last = .random 5 0xC5 := by
    decide +kernel
  obtain ⟨first, first', ⟨found, found'⟩, isWhole, isHalf⟩ :
      ∃ entry entry' : Taken,
        (((Machine.fresh ⟨0, 7⟩ false).takenSince [] run)[0]? = some entry ∧
          ((Machine.fresh ⟨0, 7⟩ true).takenSince [] other)[0]? = some entry') ∧
        entry.mask = 0xFF ∧ entry'.mask = 0x0F :=
    ⟨⟨212, 0xFF, 212⟩, ⟨212, 0x0F, 4⟩, by decide +kernel, rfl, rfl⟩
  obtain ⟨streams, alike, stores, keeps, faults⟩ := random_isolated
  obtain ⟨byte, stored⟩ := (streams ⟨0, 7⟩ false run).2 0 first found
  refine ⟨⟨first, first', found, found', isWhole, isHalf, ?_, ?_⟩, reached, rolls,
    (stores _ _ _ reached rolls).2, reachedPast, healthy, running, beyond, reads,
    (faults _ reachedPast healthy running beyond).1,
    (faults _ reachedPast healthy running beyond).2,
    keeps past (.keyDown 3) reachedPast (by simp) (by simp)⟩
  · exact alike ⟨0, 7⟩ false true run other 0 first first' found found'
  · rw [stored, byte, isWhole]

end Chip8
