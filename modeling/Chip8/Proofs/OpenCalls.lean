import Chip8.Proofs.FaultCondition
import Chip8.Proofs.Run

/-!
# Calls and their returns

The words below the pointer of the call stack are the addresses of the calls that are open, the
innermost last. Only a call that is kept adds one, its own address, and only a return that is kept
takes one away. So a call is left, however far its body runs, with the stack it was made on and at
the word behind it.

Results:
1. `Sound.calls_push`, `Sound.calls_pop`, `Sound.top_of_calls`: the stack as a list of calls, which
   determines it (`Sound.eq_of_calls`).
2. `Sound.obey_calls`, `calls_after`: the open calls after one operation and after a run.
3. `open_after`: a call stays open until a return brings the depth back.
4. `calls_bracketed`: the three parts of the rule for a whole run.
-/

namespace Chip8

namespace CallStack

variable {stack : CallStack}

/-! ## The stack as a list -/

/-- The words below the pointer: the addresses of the open calls, the outermost first. -/
def calls (stack : CallStack) : List UInt16 :=
  stack.saved.toList.take stack.pointer.toNat

theorem Sound.length_calls (sound : stack.Sound) : stack.calls.length = stack.pointer.toNat := by
  have bound := sound.pointer_le
  simp only [calls, List.length_take, Vector.length_toList]
  omega

theorem calls_push (room : stack.pointer.toNat < 16) {address : UInt16}
    (inMemory : address.toNat ≤ 0xFFF) : (stack.push address).calls = stack.calls ++ [address] := by
  have words : stack.saved.toList.length = 16 := Vector.length_toList
  rw [calls, toNat_pointer_push room, push, and_mask_of_le inMemory, Vector.toList_setIfInBounds,
    List.take_succ_eq_append_getElem (by simpa [words] using room),
    List.take_set_of_le (Nat.le_refl _), List.getElem_set_self, calls]

theorem Sound.calls_pop (sound : stack.Sound) : stack.pop.calls = stack.calls.dropLast := by
  have bound := sound.pointer_le
  have words : stack.saved.toList.length = 16 := Vector.length_toList
  have top : stack.popped.toNat = min stack.pointer.toNat 16 - 1 := by
    rw [toNat_popped]
    omega
  rw [calls, calls, List.dropLast_eq_take, List.take_take, List.length_take, words,
    CallStack.pop, Vector.toList_setIfInBounds, List.take_set_of_le (Nat.le_refl _), top]
  congr 1
  omega

theorem getElem?_calls {depth : Nat} (isOpen : depth < stack.pointer.toNat) :
    stack.calls[depth]? = stack.saved[depth]? := by
  rw [calls, List.getElem?_take_of_lt isOpen, Vector.getElem?_toList]

/-- A return takes the address of the innermost call. -/
theorem Sound.top_of_calls (sound : stack.Sound) {outer : List UInt16} {address : UInt16}
    (calls : stack.calls = outer ++ [address]) (edge : Edge) : stack.top edge = address := by
  have length := sound.length_calls
  rw [calls, List.length_append, List.length_singleton] at length
  have innermost : stack.popped.toNat = outer.length := by
    rw [toNat_popped]
    omega
  have word : stack.calls[outer.length]? = stack.saved[outer.length]? := getElem?_calls (by omega)
  rw [calls, List.getElem?_concat_length] at word
  rw [sound.top_eq, cellAt]
  simp only [innermost]
  exact (Option.some.inj (word.trans (Vector.getElem?_eq_getElem _))).symm

/-- Two sound stacks with the same open calls agree in all their words. -/
theorem Sound.eq_of_calls {one other : CallStack} (soundOne : one.Sound) (soundOther : other.Sound)
    (calls : one.calls = other.calls) : one = other := by
  have pointer : one.pointer.toNat = other.pointer.toNat := by
    rw [← soundOne.length_calls, calls, soundOther.length_calls]
  have saved : one.saved = other.saved := cells_ext fun depth => by
    by_cases isOpen : depth.val < one.pointer.toNat
    · have word := getElem?_calls isOpen
      rw [calls, getElem?_calls (pointer ▸ isOpen)] at word
      simpa [cellAt] using word.symm
    · rw [soundOne.free_zero depth (Nat.not_lt.mp isOpen),
        soundOther.free_zero depth (pointer ▸ Nat.not_lt.mp isOpen)]
  cases one
  cases other
  simp_all [← UInt8.toNat_inj]

end CallStack

namespace State

variable {state : State}

/-! ## The stack after a step -/

/-- Only a call and a return that are kept change the stack. -/
theorem Sound.step_stack (sound : state.Sound) :
    state.step.stack =
      match state.committed? with
      | some .ret => state.stack.pop
      | some (.call _) => state.stack.push state.pc
      | _ => state.stack := by
  cases sound.stepOutcome with
  | kept instruction committed read result =>
    rw [result, committed, tickIfRunning_eq]
    simp only [State.executedWith_stack, read]
    cases instruction <;> rfl
  | resolved _ committed _ result | idle committed _ result | discarded _ committed _ result =>
    rw [result, committed]
    rfl

/-- A call that is kept found room on the stack. -/
theorem Sound.room_of_call (sound : state.Sound) {target : UInt16}
    (committed : state.committed? = some (.call target)) : state.stack.pointer.toNat < 16 :=
  pointer_lt_of_call (passed_of_committed committed) (sound.read_of_committed committed)

/-- A return that is kept goes on behind the innermost call. -/
theorem Sound.step_pc_of_ret (sound : state.Sound) (committed : state.committed? = some .ret) :
    state.step.pc = state.stack.top Edge.last + 2 := by
  rw [step_of_committed committed, tickIfRunning_eq]
  simp only [executedWith_pc, fetchedInstruction_clearReports, sound.read_of_committed committed]
  rfl

/-- A return that is kept found an open call. -/
theorem Sound.open_of_ret (sound : state.Sound) (committed : state.committed? = some .ret) :
    0 < state.stack.pointer.toNat := by
  have hazard := hazard?_of_passed (passed_of_committed committed)
  rw [sound.read_of_committed committed, hazard?, ite_eq_right_iff] at hazard
  rw [Nat.pos_iff_ne_zero]
  intro none
  cases hazard (CallStack.isEmpty_eq_true_iff.mpr none)

/-- A word for a call is carried out and kept exactly if the stack has room. -/
theorem Sound.committed?_call_iff (sound : state.Sound) (healthy : state.fault = Fault.healthy)
    (running : state.mode = Mode.running) (inMemory : state.pc.toNat ≤ 0xFFE)
    (word : state.word &&& 0xF000 = 0x2000) :
    (∃ target, state.committed? = some (.call target)) ↔ state.stack.pointer.toNat < 16 := by
  have kind := word_call_iff.mp word
  constructor
  · rintro ⟨target, committed⟩
    exact sound.room_of_call committed
  · intro room
    have notFull : state.stack.isFull = false := by
      rw [Bool.eq_false_iff]
      exact fun full => by
        have := CallStack.isFull_eq_true_iff.mp full
        omega
    have read : Instruction.ofWord state.word = .call (Word.nnn state.operands) := by
      rw [Instruction.ofWord, Instruction.decode, ← operands, kind]
    refine ⟨_, sound.committed_of_passed healthy running inMemory read ?_⟩
    rw [hazard?, notFull]
    rfl

end State

namespace Machine

variable {machine : Machine}

/-! ## Open calls of a run -/

/-- The open calls after an operation, given those before it: a call that is kept is opened at its
own address, a return that is kept closes the innermost, and a reset closes all. -/
def callsAfter (machine : Machine) (opened : List UInt16) : Command → List UInt16
  | .reset => []
  | .step =>
    match machine.state.committed? with
    | some (.call _) => opened ++ [machine.state.pc]
    | some .ret => opened.dropLast
    | _ => opened
  | _ => opened

/-- The open calls after a run, given those before it. -/
def openCalls (machine : Machine) (opened : List UInt16) : List Command → List UInt16
  | [] => opened
  | command :: rest =>
    (machine.obey command).machine.openCalls (machine.callsAfter opened command) rest

theorem Sound.obey_calls (sound : machine.state.Sound) (command : Command) :
    (machine.obey command).machine.state.stack.calls =
      machine.callsAfter machine.state.stack.calls command := by
  cases command with
  | step =>
    rw [Sound.obey_step sound, sound.step_stack, callsAfter]
    cases committed : machine.state.committed? with
    | none => rfl
    | some instruction =>
      cases instruction with
      | ret => exact sound.stack.calls_pop
      | call target =>
        have inMemory := sound.pc_le_of_committed committed
        exact CallStack.calls_push (sound.room_of_call committed) (Nat.le_succ_of_le inMemory)
      | _ => rfl
  | reset => rfl
  | _ =>
    rw [obey_state_of_ne _ (by simp) (by simp)]
    rfl

theorem calls_after (sound : machine.state.Sound) (commands : List Command) :
    (machine.after commands).state.stack.calls =
      machine.openCalls machine.state.stack.calls commands := by
  induction commands generalizing machine with
  | nil => rfl
  | cons command rest ih =>
    rw [after_cons, ih (Sound.obey sound command), Sound.obey_calls sound, openCalls]

/-! ## From a call to its return -/

/-- The next step is a return that is kept and leaves so many calls open. -/
def ReturnsTo (machine : Machine) (depth : Nat) : Prop :=
  machine.state.committed? = some .ret ∧
    (machine.obey .step).machine.state.stack.pointer.toNat = depth

instance (depth : Nat) : Decidable (machine.ReturnsTo depth) :=
  inferInstanceAs (Decidable (_ ∧ _))

theorem Sound.length_calls_of_returnsTo (sound : machine.state.Sound) {depth : Nat}
    (returns : machine.ReturnsTo depth) : machine.state.stack.calls.length - 1 = depth := by
  obtain ⟨committed, left⟩ := returns
  rw [← left, Sound.obey_step sound, sound.step_stack, committed, CallStack.pop,
    CallStack.toNat_popped, sound.stack.length_calls]

/-- An operation closes a call only if it is a return to the depth at which the call was made. -/
theorem open_obey (sound : machine.state.Sound) {command : Command} (kept : command ≠ .reset)
    {opened : List UInt16} (covered : opened <+: machine.state.stack.calls)
    (notBack : command = .step → ¬ machine.ReturnsTo (opened.length - 1)) :
    opened <+: (machine.obey command).machine.state.stack.calls := by
  rw [Sound.obey_calls sound]
  cases command with
  | reset => exact absurd rfl kept
  | step =>
    rw [callsAfter]
    cases committed : machine.state.committed? with
    | none => exact covered
    | some instruction =>
      cases instruction with
      | call target => exact covered.trans (List.prefix_append _ _)
      | ret =>
        -- The return does not come back to this call, so that another call lies above it.
        have apart : machine.state.stack.calls.length - 1 ≠ opened.length - 1 := fun same => by
          refine notBack rfl ⟨committed, ?_⟩
          rw [Sound.obey_step sound, sound.step_stack, committed, CallStack.pop,
            CallStack.toNat_popped, ← sound.stack.length_calls, same]
        have shorter := covered.length_le
        refine List.prefix_of_prefix_length_le covered (List.dropLast_prefix _) ?_
        rw [List.length_dropLast]
        omega
      | _ => exact covered
  | _ => exact covered

/-- Calls stay open through every run without a reset that does not return from them. -/
theorem open_after (sound : machine.state.Sound) {commands : List Command}
    (kept : .reset ∉ commands) {opened : List UInt16}
    (covered : opened <+: machine.state.stack.calls)
    (notBack : ∀ before rest, commands = before ++ .step :: rest →
      ¬ (machine.after before).ReturnsTo (opened.length - 1)) :
    opened <+: (machine.after commands).state.stack.calls := by
  induction commands generalizing machine with
  | nil => exact covered
  | cons command rest ih =>
    rw [List.mem_cons, not_or] at kept
    have next : opened <+: (machine.obey command).machine.state.stack.calls := by
      refine open_obey sound (Ne.symm kept.1) covered fun isStep => ?_
      exact notBack [] rest (congrArg (· :: rest) isStep)
    refine ih (Sound.obey sound command) kept.2 next fun before behind split => ?_
    exact notBack (command :: before) behind (congrArg (command :: ·) split)

/-- The return to an open call goes to the word behind it and leaves the stack that it found. -/
theorem step_of_innermost {caller inner : Machine} (soundCaller : caller.state.Sound)
    (inMemory : caller.state.pc.toNat ≤ 0xFFE) (sound : inner.state.Sound)
    (calls : inner.state.stack.calls = caller.state.stack.calls ++ [caller.state.pc])
    (committed : inner.state.committed? = some .ret) :
    inner.state.step.pc.toNat = caller.state.pc.toNat + 2 ∧
      inner.state.step.stack = caller.state.stack := by
  constructor
  · rw [sound.step_pc_of_ret committed, sound.stack.top_of_calls calls]
    exact State.toNat_add_of_lt (show _ + 2 < _ by omega)
  · rw [sound.step_stack, committed]
    refine sound.stack.pop.eq_of_calls soundCaller.stack ?_
    rw [sound.stack.calls_pop, calls, List.dropLast_concat]

/-- From a call to the first return that brings the depth back. -/
theorem step_of_call_returned (sound : machine.state.Sound) {target : UInt16}
    (called : machine.state.committed? = some (.call target)) {commands : List Command}
    (kept : .reset ∉ commands)
    (notBack : ∀ before rest, commands = before ++ .step :: rest →
      ¬ (machine.after (.step :: before)).ReturnsTo machine.state.stack.pointer.toNat)
    (returns : (machine.after (.step :: commands)).ReturnsTo machine.state.stack.pointer.toNat) :
    (machine.after (.step :: commands)).state.step.pc.toNat = machine.state.pc.toNat + 2 ∧
      (machine.after (.step :: commands)).state.step.stack = machine.state.stack := by
  have soundNext := Sound.obey sound .step
  have soundInner := sound_after soundNext commands
  have depth : (machine.state.stack.calls ++ [machine.state.pc]).length - 1 =
      machine.state.stack.pointer.toNat := by
    rw [List.length_append, List.length_singleton, Nat.add_sub_cancel, sound.stack.length_calls]
  have opened : (machine.obey .step).machine.state.stack.calls =
      machine.state.stack.calls ++ [machine.state.pc] := by
    rw [Sound.obey_calls sound, callsAfter, called]
  -- The call and those around it stay open all the way, and at the return no other call is.
  have covered := open_after soundNext kept (opened ▸ List.prefix_rfl)
    fun before rest split => depth ▸ notBack before rest split
  have innermost := Sound.length_calls_of_returnsTo soundInner returns
  have atLeast := covered.length_le
  have calls : machine.state.stack.calls ++ [machine.state.pc] =
      ((machine.obey .step).machine.after commands).state.stack.calls := by
    refine covered.eq_of_length ?_
    rw [List.length_append, List.length_singleton] at atLeast depth ⊢
    omega
  exact step_of_innermost sound (sound.pc_le_of_committed called) soundInner calls.symm returns.1

end Machine

/-- Calls and returns are bracketed. The words below the pointer are always the calls that are open,
at most sixteen. A call is kept exactly while there is room for it, and a return only while a call
is open. And when after a call, with no reset, a return first brings the depth back to that of the
call, execution goes on behind the call with the stack that it found. -/
theorem calls_bracketed :
    (∀ random strict commands,
      let machine := Machine.fresh random strict
      let stack := (machine.after commands).state.stack
      stack.calls = machine.openCalls [] commands ∧
      stack.calls.length = stack.pointer.toNat ∧ stack.pointer.toNat ≤ 16) ∧
    (∀ state : State, state.Reachable → state.fault = Fault.healthy → state.mode = Mode.running →
      state.pc.toNat ≤ 0xFFE → state.word &&& 0xF000 = 0x2000 →
      ((∃ target, state.committed? = some (.call target)) ↔ state.stack.calls.length < 16)) ∧
    (∀ state : State, state.Reachable → state.committed? = some .ret → state.stack.calls ≠ []) ∧
    (∀ (machine : Machine) (target : UInt16) (commands : List Machine.Command),
      machine.state.Reachable → machine.state.committed? = some (.call target) →
      .reset ∉ commands →
      (∀ before rest, commands = before ++ .step :: rest →
        ¬ (machine.after (.step :: before)).ReturnsTo machine.state.stack.pointer.toNat) →
      (machine.after (.step :: commands)).ReturnsTo machine.state.stack.pointer.toNat →
      let back := (machine.after (.step :: commands ++ [.step])).state
      back.pc.toNat = machine.state.pc.toNat + 2 ∧ back.stack = machine.state.stack) := by
  refine ⟨fun random strict commands => ?_, fun state reached healthy running inMemory word => ?_,
    fun state reached committed => ?_,
    fun machine target commands reached called kept notBack returns => ?_⟩
  · have start : (Machine.fresh random strict).state.Sound := State.sound_initial random
    have sound := (Machine.sound_after start commands).stack
    exact ⟨Machine.calls_after start commands, sound.length_calls, sound.pointer_le⟩
  · rw [reached.sound.stack.length_calls]
    exact reached.sound.committed?_call_iff healthy running inMemory word
  · rw [← List.length_pos_iff, reached.sound.stack.length_calls]
    exact reached.sound.open_of_ret committed
  · have sound := reached.sound
    have taken : (machine.after (.step :: commands ++ [.step])).state =
        (machine.after (.step :: commands)).state.step := by
      rw [Machine.after_append]
      exact Machine.Sound.obey_step (Machine.sound_after sound _)
    rw [taken]
    exact Machine.step_of_call_returned sound called kept notBack returns

/-- A machine about to call a subroutine that calls another one. -/
def Machine.calling : Machine :=
  (Machine.fresh ⟨0, 0⟩ false).after
    [.load #[0x22, 0x06, 0x00, 0x00, 0x00, 0x00, 0x22, 0x0A, 0x00, 0xEE, 0x00, 0xEE]]

/-- The inner call and its return lie between, and a key is pressed on the way. -/
theorem calls_bracketed_calling :
    Machine.calling.state.Reachable ∧
    Machine.calling.state.fault = Fault.healthy ∧
    Machine.calling.state.mode = Mode.running ∧
    Machine.calling.state.pc.toNat ≤ 0xFFE ∧
    Machine.calling.state.word &&& 0xF000 = 0x2000 ∧
    (∃ target, Machine.calling.state.committed? = some (.call target)) ∧
    (Machine.calling.after [.step, .step, .keyDown 3]).state.committed? = some .ret ∧
    (Machine.calling.after [.step, .step, .keyDown 3]).state.stack.calls ≠ [] ∧
    (Machine.calling.after [.step, .step, .keyDown 3, .step]).ReturnsTo 0 ∧
    (Machine.calling.after [.step, .step, .keyDown 3, .step, .step]).state.pc.toNat = 0x202 ∧
    (Machine.calling.after [.step, .step, .keyDown 3, .step, .step]).state.stack =
      Machine.calling.state.stack := by
  have reached : Machine.calling.state.Reachable := ⟨_, _, _, rfl⟩
  have reachedInner : (Machine.calling.after [.step, .step, .keyDown 3]).state.Reachable :=
    Machine.reachable_after _ _ _ _
  obtain ⟨healthy, running, inMemory, word, address, room⟩ :
      Machine.calling.state.fault = Fault.healthy ∧ Machine.calling.state.mode = Mode.running ∧
      Machine.calling.state.pc.toNat ≤ 0xFFE ∧ Machine.calling.state.word &&& 0xF000 = 0x2000 ∧
      Machine.calling.state.pc.toNat = 0x200 ∧ Machine.calling.state.stack.calls.length < 16 := by
    decide +kernel
  obtain ⟨called, inner, returns, notBack⟩ :
      Machine.calling.state.committed? = some (.call 0x206) ∧
      (Machine.calling.after [.step, .step, .keyDown 3]).state.committed? = some .ret ∧
      (Machine.calling.after [.step, .step, .keyDown 3, .step]).ReturnsTo 0 ∧
      ∀ before ∈ [[], [.step, .keyDown 3]],
        ¬ (Machine.calling.after (.step :: before)).ReturnsTo 0 := by
    decide +kernel
  have bracket := calls_bracketed.2.2.2 Machine.calling 0x206 [.step, .keyDown 3, .step] reached
    called (by decide) (fun before rest split => notBack before ?_) returns
  · simp only [List.cons_append, List.nil_append, address] at bracket
    exact ⟨reached, healthy, running, inMemory, word,
      (calls_bracketed.2.1 _ reached healthy running inMemory word).mpr room, inner,
      calls_bracketed.2.2.1 _ reachedInner inner, returns, bracket⟩
  · rcases before with _ | ⟨first, _ | ⟨second, _ | ⟨third, before⟩⟩⟩ <;> simp_all

end Chip8
