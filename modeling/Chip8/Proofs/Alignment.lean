import Chip8.Proofs.Halting
import Chip8.Proofs.Independence
import Chip8.Proofs.OpenCalls

/-!
# The program counter stays on the words of a program

A program whose jumps and calls go to even addresses of the program area is read word by word: the
program counter never gets between two words, and no word is read that lies partly past the end of
memory. A return goes on behind a call, so that the addresses of the open calls are part of the
invariant; and as a run may get past the end of memory, where the next step faults, so is the fault
that halts it there.

Results:
1. `Sound.step_pc`, `Sound.move`: where a step leaves the program counter.
2. `Aligned.step`, `aligned_obey`, `aligned_run`: alignment is kept by steps, by whatever a host
   asks, and by runs.
3. `Aligned.nextWord`, `Aligned.whole`: what it says of the next word.
4. `pc_aligned`: where the program counter and the open calls of a run are.
-/

namespace Chip8

/-- The address of a word of a program, counted in whole words from the program's start. -/
def OnWord (address : Nat) : Prop :=
  address % 2 = 0 ∧ 0x200 ≤ address

instance (address : Nat) : Decidable (OnWord address) :=
  inferInstanceAs (Decidable (_ ∧ _))

theorem OnWord.add {address : Nat} (onWord : OnWord address) (words : Nat) :
    OnWord (address + 2 * words) := by
  unfold OnWord at *
  omega

namespace State

/-- Where the next step jumps to, if it keeps a jump or a call. -/
def target? (state : State) : Option Nat :=
  match state.committed? with
  | some (.jump target) | some (.call target) => some target.toNat
  | some (.jumpOffset base) => some (base.toNat + (state.register Registers.offset).toNat)
  | _ => none

variable {state : State}

/-! ## Where a step leads -/

/-- The program counter after a step. A step that keeps no instruction leaves it. -/
theorem Sound.step_pc (sound : state.Sound) :
    state.step.pc =
      match state.committed? with
      | none => state.pc
      | some .ret => state.stack.top Edge.last + 2
      | some (.jump target) | some (.call target) => target
      | some (.jumpOffset base) => base + (state.register Registers.offset).toUInt16
      | some instruction =>
        if state.skips Edge.last instruction then state.pc + 4 else state.pc + 2 := by
  cases sound.stepOutcome with
  | kept instruction committed read result =>
    rw [result, committed, tickIfRunning_eq]
    simp only [executedWith_pc, read]
    cases instruction <;> rfl
  | resolved _ committed _ result | idle committed _ result | discarded _ committed _ result =>
    rw [result, committed]
    rfl

/-- Where a step leaves the program counter. -/
inductive Move (state : State) : Prop where
  | jumps (target : Nat) (jump : state.target? = some target) (pc : state.step.pc.toNat = target)
  | returns (address : UInt16) (isOpen : address ∈ state.stack.calls)
      (pc : state.step.pc.toNat = address.toNat + 2)
  | advances (words : Nat) (pc : state.step.pc.toNat = state.pc.toNat + 2 * words)

theorem Sound.move_of_ret (sound : state.Sound) (committed : state.committed? = some .ret) :
    state.Move := by
  have busy : state.stack.calls ≠ [] := by
    rw [← List.length_pos_iff, sound.stack.length_calls]
    exact sound.open_of_ret committed
  have innermost := List.dropLast_concat_getLast busy
  have top := sound.stack.top_of_calls innermost.symm Edge.last
  have inMemory := sound.stack.top_le Edge.last
  refine .returns (state.stack.calls.getLast busy) (List.getLast_mem busy) ?_
  rw [sound.step_pc_of_ret committed, top]
  rw [top] at inMemory
  exact toNat_add_of_lt (show _ + 2 < _ by omega)

theorem move_of_skip {skips : Bool} (inMemory : state.pc.toNat ≤ 0xFFE)
    (moved : state.step.pc = if skips then state.pc + 4 else state.pc + 2) : state.Move := by
  cases skips with
  | true =>
    refine .advances 2 ?_
    rw [moved, if_pos rfl]
    exact toNat_add_of_lt (show _ + 4 < _ by omega)
  | false =>
    refine .advances 1 ?_
    rw [moved, if_neg Bool.false_ne_true]
    exact toNat_add_of_lt (show _ + 2 < _ by omega)

/-- A step jumps, returns to an open call, or goes on by no, one or two words. -/
theorem Sound.move (sound : state.Sound) : state.Move := by
  have moved := sound.step_pc
  cases committed : state.committed? with
  | none =>
    rw [committed] at moved
    exact .advances 0 (congrArg UInt16.toNat moved)
  | some instruction =>
    have inMemory := sound.pc_le_of_committed committed
    rw [committed] at moved
    cases instruction with
    | ret => exact sound.move_of_ret committed
    | jump target | call target =>
      exact .jumps target.toNat (by rw [target?, committed]) (congrArg UInt16.toNat moved)
    | jumpOffset base =>
      have bound : base.toNat ≤ 0xFFF :=
        address_fetched_le (by rw [sound.read_of_committed committed]; rfl)
      have byte := (state.register Registers.offset).toNat_lt
      refine .jumps _ (by rw [target?, committed]) ?_
      rw [moved]
      simp only [UInt16.toNat_add, UInt8.toNat_toUInt16]
      omega
    | _ => exact move_of_skip inMemory moved

/-! ## Alignment -/

/-- The program counter and the open calls are on words of a program, and what halts the machine past
the end of memory is the fetch there. -/
structure Aligned (state : State) : Prop where
  pc : OnWord state.pc.toNat
  calls : ∀ address ∈ state.stack.calls, OnWord address.toNat
  past : 0xFFE < state.pc.toNat → state.fault ≠ Fault.healthy → state.fault = Fault.memory.code

theorem aligned_initial (random : RandomKey) : (initial random).Aligned where
  pc := by simp [OnWord, initial, programStart]
  calls address isOpen := by cases isOpen
  past _ faulty := absurd rfl faulty

theorem Aligned.step_calls (aligned : state.Aligned) (sound : state.Sound) (address : UInt16)
    (isOpen : address ∈ state.step.stack.calls) : OnWord address.toNat := by
  rw [sound.step_stack] at isOpen
  split at isOpen
  · rw [sound.stack.calls_pop] at isOpen
    exact aligned.calls address (List.dropLast_subset _ isOpen)
  · next target committed =>
    have inMemory := sound.pc_le_of_committed committed
    rw [CallStack.calls_push (sound.room_of_call committed) (Nat.le_succ_of_le inMemory),
      List.mem_append, List.mem_singleton] at isOpen
    rcases isOpen with before | rfl
    · exact aligned.calls address before
    · exact aligned.pc
  · exact aligned.calls address isOpen

/-- A fault past the end of memory is that of the fetch. -/
theorem Aligned.step_past (aligned : state.Aligned) (sound : state.Sound)
    (past : 0xFFE < state.step.pc.toNat) (faulted : state.step.fault ≠ Fault.healthy) :
    state.step.fault = Fault.memory.code := by
  by_cases healthy : state.fault = Fault.healthy
  · have stays : state.step.pc = state.pc := by rw [step_of_faulted healthy faulted]
    have running : state.mode = Mode.running := by
      by_contra waiting
      exact faulted ((stepWith_fault _ _ healthy).trans (if_neg waiting))
    rw [State.step, stepWith_of_pastMemory sound healthy running (stays ▸ past)]
  · have halted : state.step = state.clearReports := stepWith_of_fault _ _ healthy
    rw [halted] at past ⊢
    exact aligned.past past healthy

/-- A step keeps a machine aligned if the jump or the call that it may keep goes to a word. -/
theorem Aligned.step (aligned : state.Aligned) (sound : state.Sound)
    (targets : ∀ target ∈ state.target?, OnWord target) : state.step.Aligned where
  pc := by
    cases sound.move with
    | jumps target jump pc => exact pc ▸ targets target jump
    | returns address isOpen pc => exact pc ▸ (aligned.calls address isOpen).add 1
    | advances words pc => exact pc ▸ aligned.pc.add words
  calls := aligned.step_calls sound
  past := aligned.step_past sound

/-- The next word lies in memory, or there is no next word: the machine waits or is halted, or its
next step faults for the fetch and stays where it is. -/
theorem Aligned.nextWord (aligned : state.Aligned) (sound : state.Sound) :
    state.pc.toNat ≤ 0xFFE ∨ state.mode = Mode.awaitingKey ∨ state.fault = Fault.memory.code ∨
      (state.fault = Fault.healthy ∧ state.step.fault = Fault.memory.code ∧
        state.step.pc = state.pc) := by
  rcases Nat.lt_or_ge 0xFFE state.pc.toNat with past | inMemory
  · by_cases healthy : state.fault = Fault.healthy
    · rcases sound.mode with running | waiting
      · have faults := stepWith_of_pastMemory sound healthy running past Edge.last
        rw [State.step, faults]
        exact .inr (.inr (.inr ⟨healthy, rfl, rfl⟩))
      · exact .inr (.inl waiting)
    · exact .inr (.inr (.inl (aligned.past past healthy)))
  · exact .inl inMemory

/-- No word of an aligned machine lies partly past the end of memory. -/
theorem Aligned.whole (aligned : state.Aligned) :
    state.pc.toNat + 1 < 4096 ∨ 4096 ≤ state.pc.toNat := by
  have even := aligned.pc.1
  omega

end State

namespace Machine

variable {machine : Machine}

/-- Whatever a host asks keeps a machine aligned, if a jump or a call of a step goes to a word. -/
theorem aligned_obey (aligned : machine.state.Aligned) (sound : machine.state.Sound)
    (command : Command)
    (targets : command = .step → ∀ target ∈ machine.state.target?, OnWord target) :
    (machine.obey command).machine.state.Aligned := by
  cases command with
  | reset => exact State.aligned_initial machine.random
  | step =>
    rw [Sound.obey_step sound]
    exact aligned.step sound (targets rfl)
  | _ =>
    rw [obey_state_of_ne _ (by simp) (by simp)]
    exact { aligned with }

/-- A run whose jumps and calls go to words stays aligned. -/
theorem aligned_run (aligned : machine.state.Aligned) (sound : machine.state.Sound)
    (commands : List Command)
    (targets : ∀ stepped ∈ machine.steppedFrom commands,
      ∀ target ∈ stepped.target?, OnWord target) :
    (machine.after commands).state.Aligned ∧
      ∀ stepped ∈ machine.steppedFrom commands, stepped.Aligned := by
  induction commands generalizing machine with
  | nil => exact ⟨aligned, fun stepped member => by cases member⟩
  | cons command rest ih =>
    rw [forall_steppedFrom_cons] at targets
    obtain ⟨atEnd, before⟩ :=
      ih (aligned_obey aligned sound command targets.1) (Sound.obey sound command) targets.2
    exact ⟨atEnd, (forall_steppedFrom_cons command rest).mpr ⟨fun _ => aligned, before⟩⟩

end Machine

/-- The program counter stays on words. In every run of a machine from its construction in which each
jump and each call that is kept goes to an even address of the program area, the program counter is
such an address, and so is each saved address below the pointer, with its word in memory. The next
word lies in memory with both of its bytes, or the machine waits for a key, is halted for a fault of
memory, or faults so with its next step and stays where it is. So no step of the run fetches a word
of which one byte lies in memory and one does not. -/
theorem pc_aligned (random : RandomKey) (strict : Bool) (commands : List Machine.Command)
    (targets : ∀ stepped ∈ (Machine.fresh random strict).steppedFrom commands,
      ∀ target ∈ stepped.target?, target % 2 = 0 ∧ 0x200 ≤ target) :
    let machine := (Machine.fresh random strict).after commands
    let state := machine.state
    let next := (machine.obey .step).machine.state
    (state.pc.toNat % 2 = 0 ∧ 0x200 ≤ state.pc.toNat) ∧
    (∀ depth : Fin 16, depth.val < state.stack.pointer.toNat →
      let address := (cellAt state.stack.saved depth).toNat
      address % 2 = 0 ∧ 0x200 ≤ address ∧ address ≤ 0xFFE) ∧
    (state.pc.toNat ≤ 0xFFE ∨ state.mode = Mode.awaitingKey ∨ state.fault = Fault.memory.code ∨
      (state.fault = Fault.healthy ∧ next.fault = Fault.memory.code ∧ next.pc = state.pc)) ∧
    ∀ stepped ∈ (Machine.fresh random strict).steppedFrom commands,
      stepped.pc.toNat + 1 < 4096 ∨ 4096 ≤ stepped.pc.toNat := by
  intro machine state next
  have start : (Machine.fresh random strict).state.Sound := State.sound_initial random
  have alignedStart : (Machine.fresh random strict).state.Aligned := State.aligned_initial random
  have sound : state.Sound := Machine.sound_after start commands
  obtain ⟨aligned, before⟩ := Machine.aligned_run alignedStart start commands targets
  have stepped : next = state.step := Machine.Sound.obey_step sound
  refine ⟨aligned.pc, fun depth isOpen => ?_, stepped ▸ aligned.nextWord sound,
    fun stepped member => (before stepped member).whole⟩
  have listed : state.stack.calls[depth.val]? = some (cellAt state.stack.saved depth) := by
    rw [CallStack.getElem?_calls isOpen]
    exact Vector.getElem?_eq_getElem depth.isLt
  have onWord := aligned.calls _ (List.mem_of_getElem? listed)
  exact ⟨onWord.1, onWord.2, sound.stack.open_le depth isOpen⟩

/-- Calls and returns, and jumps to the last word of memory. -/
def leavingProgram : Program := #[0x22, 0x08, 0x60, 0x02, 0xBF, 0xFC, 0x00, 0x00, 0x00, 0xEE]

/-- So many steps of the program from its start. -/
def leavingRun (steps : Nat) : List Machine.Command :=
  .load leavingProgram :: List.replicate steps .step

/-- Within the call its address is on a word. After the last word of memory there is no next one, and
the step there faults. -/
theorem pc_aligned_leaving :
    let inner := ((Machine.fresh ⟨0, 0⟩ false).after (leavingRun 1)).state
    let ended := (Machine.fresh ⟨0, 0⟩ false).after (leavingRun 5)
    let next := (ended.obey .step).machine.state
    (∀ steps ∈ [1, 5], ∀ stepped ∈ (Machine.fresh ⟨0, 0⟩ false).steppedFrom (leavingRun steps),
      ∀ target ∈ stepped.target?, target % 2 = 0 ∧ 0x200 ≤ target) ∧
    0 < inner.stack.pointer.toNat ∧
    (cellAt inner.stack.saved 0).toNat % 2 = 0 ∧ 0x200 ≤ (cellAt inner.stack.saved 0).toNat ∧
    ¬ ended.state.pc.toNat ≤ 0xFFE ∧ ended.state.mode ≠ Mode.awaitingKey ∧
    ended.state.fault ≠ Fault.memory.code ∧
    next.fault = Fault.memory.code ∧ next.pc = ended.state.pc ∧
    ∀ stepped ∈ (Machine.fresh ⟨0, 0⟩ false).steppedFrom (leavingRun 5),
      stepped.pc.toNat + 1 < 4096 ∨ 4096 ≤ stepped.pc.toNat := by
  have targets : ∀ steps ∈ [1, 5],
      ∀ stepped ∈ (Machine.fresh ⟨0, 0⟩ false).steppedFrom (leavingRun steps),
        ∀ target ∈ stepped.target?, target % 2 = 0 ∧ 0x200 ≤ target := by
    decide +kernel
  obtain ⟨isOpen, past, awake, unfaulted⟩ :
      0 < ((Machine.fresh ⟨0, 0⟩ false).after (leavingRun 1)).state.stack.pointer.toNat ∧
      ¬ ((Machine.fresh ⟨0, 0⟩ false).after (leavingRun 5)).state.pc.toNat ≤ 0xFFE ∧
      ¬ ((Machine.fresh ⟨0, 0⟩ false).after (leavingRun 5)).state.mode = Mode.awaitingKey ∧
      ¬ ((Machine.fresh ⟨0, 0⟩ false).after (leavingRun 5)).state.fault = Fault.memory.code := by
    decide +kernel
  obtain ⟨-, saved, -⟩ := pc_aligned ⟨0, 0⟩ false (leavingRun 1) (targets 1 (by simp))
  obtain ⟨even, behindStart, -⟩ := saved 0 isOpen
  obtain ⟨-, -, nextWord, whole⟩ := pc_aligned ⟨0, 0⟩ false (leavingRun 5) (targets 5 (by simp))
  obtain ⟨-, faults, stays⟩ :=
    ((nextWord.resolve_left past).resolve_left awake).resolve_left unfaulted
  exact ⟨targets, isOpen, even, behindStart, past, awake, unfaulted, faults, stays, whole⟩

end Chip8
