import Chip8.Proofs.Step

/-!
# The first fault stays

Fetch, instructions and timers can be had one by one and in any order, with single checks between them.
None of these actions stops at a fault: an instruction whose check fails has changed the state by then,
and one that is carried out later does what it always does. Only the record of the fault is kept, since
every check of every action leaves an earlier fault as it is. So a sequence of actions leaves the code
of its first check that failed, wherever that check stands among those of its action.

Results:
1. `firstCode_append`: the first check that fails in two lists, one behind the other.
2. `act_fault`, `after_fault`: what one action, and what a sequence of actions, leaves as the fault.
3. `after_withFault`: what else a sequence does is the same with a fault and without.
4. `first_fault_kept`: the record of faults, for every state and every sequence of actions.
-/

namespace Chip8

/-! ## Checks -/

/-- A condition that is not to hold, and the code that is recorded where it does. -/
structure Check where
  fails : Bool
  code : UInt8
  code_ne_healthy : code ≠ Fault.healthy
deriving DecidableEq, Repr

/-- The check for a fault. -/
def Fault.check (fault : Fault) (fails : Bool) : Check :=
  ⟨fails, fault.code, fault.code_ne_healthy⟩

namespace Check

/-- The code of the first check that fails, or that of a healthy machine if none does. -/
def firstCode (checks : List Check) : UInt8 :=
  (checks.find? Check.fails).elim Fault.healthy Check.code

@[simp] theorem firstCode_nil : firstCode [] = Fault.healthy := rfl

theorem firstCode_cons (check : Check) (rest : List Check) :
    firstCode (check :: rest) = if check.fails then check.code else firstCode rest := by
  cases failed : check.fails <;> simp [firstCode, failed]

theorem firstCode_append (first second : List Check) :
    firstCode (first ++ second) =
      if firstCode first = Fault.healthy then firstCode second else firstCode first := by
  induction first with
  | nil => rfl
  | cons check rest ih =>
    rw [List.cons_append, firstCode_cons, firstCode_cons, ih]
    cases check.fails with
    | true => simp [check.code_ne_healthy]
    | false => rfl

end Check

namespace State

/-! ## Actions -/

/-- What can be done to a state below the level of steps. -/
inductive Action where
  | fetch
  | execute (word : Int32)
  | tick
  | record (check : Check)
deriving DecidableEq, Repr

def act (state : State) : Action → State
  | .fetch => state.fetch.state
  | .execute word => state.execute word
  | .tick => state.tick
  | .record check => state.latch check.fails check.code

/-- The state that a sequence of actions leaves. -/
def after (state : State) (actions : List Action) : State :=
  actions.foldl act state

/-- The checks of an instruction, in the order in which it makes them. -/
def instructionChecks (state : State) : Instruction → List Check
  | .ret => [Fault.stackUnderflow.check state.stack.isEmpty]
  | .call _ => [Fault.stackOverflow.check state.stack.isFull]
  | .draw x y height =>
    [Fault.memory.check (0 < height.val ∧ 0xFFF < state.index.toNat + height - 1),
      Fault.display.check (state.sprite Edge.last x y height).isOffScreen]
  | .skipKeyDown x | .skipKeyUp x => [Fault.keypad.check (16 ≤ state.register x)]
  | .decimal _ => [Fault.memory.check (0xFFF < state.index + 2)]
  | .storeRegisters x | .loadRegisters x => [Fault.memory.check (state.windowPastMemory x)]
  | _ => []

/-- The checks of an action, in the order in which it makes them. -/
def checks (state : State) : Action → List Check
  | .fetch => [Fault.memory.check (0xFFF < state.pc + 1)]
  | .execute word => state.instructionChecks (Instruction.decode word)
  | .tick => []
  | .record check => [check]

/-- The checks of a sequence of actions, each made on the state that the actions before it leave. -/
def checksDuring (state : State) : List Action → List Check
  | [] => []
  | action :: rest => state.checks action ++ (state.act action).checksDuring rest

/-- The same state with another code in the place of its fault. -/
def withFault (state : State) (code : UInt8) : State :=
  { state with fault := code }

variable (state : State)

theorem after_cons (action : Action) (rest : List Action) :
    state.after (action :: rest) = (state.act action).after rest :=
  rfl

/-! ## The fault after an action -/

/-- A check is recorded only if no fault is. -/
theorem latch_fault (check : Check) :
    (state.latch check.fails check.code).fault =
      if state.fault = Fault.healthy then Check.firstCode [check] else state.fault := by
  rw [Check.firstCode_cons, Check.firstCode_nil]
  by_cases healthy : state.fault = Fault.healthy <;> simp [latch, healthy]

/-- What an instruction fails for is the first of its checks that fails. -/
theorem firstCode_instructionChecks (instruction : Instruction) :
    Check.firstCode (state.instructionChecks instruction) =
      Fault.codeOf (state.hazard? Edge.last instruction) := by
  cases instruction <;>
    simp [instructionChecks, hazard?, Check.firstCode_cons, Fault.check, apply_ite Fault.codeOf]

/-- A fault outlasts an action; without one, the action leaves the first of its own checks that fails. -/
theorem act_fault (action : Action) :
    (state.act action).fault =
      if state.fault = Fault.healthy then Check.firstCode (state.checks action)
      else state.fault := by
  cases action with
  | fetch => exact latch_fault state (Fault.memory.check (0xFFF < state.pc + 1))
  | execute word =>
    split
    · next healthy =>
      exact (performWith_fault _ _ healthy _).trans (firstCode_instructionChecks _ _).symm
    · next faulty => exact performWith_fault_of_ne _ _ faulty _
  | tick =>
    split
    · next healthy => exact healthy
    · rfl
  | record check => exact latch_fault state check

/-! ## The fault after a sequence of actions -/

theorem after_fault (actions : List Action) :
    (state.after actions).fault =
      if state.fault = Fault.healthy then Check.firstCode (state.checksDuring actions)
      else state.fault := by
  -- Over all states, since the rest of the actions starts from the fault that the first one leaves.
  induction actions generalizing state with
  | nil =>
    split
    · next healthy => exact healthy
    · rfl
  | cons action rest ih =>
    rw [after_cons, ih, act_fault, checksDuring, Check.firstCode_append]
    by_cases healthy : state.fault = Fault.healthy
    · simp only [healthy, if_true]
    · simp only [healthy, if_false]

/-! ## What a fault has no part in -/

theorem instructionChecks_withFault (code : UInt8) (instruction : Instruction) :
    (state.withFault code).instructionChecks instruction = state.instructionChecks instruction := by
  cases instruction <;> rfl

theorem checks_withFault (code : UInt8) (action : Action) :
    (state.withFault code).checks action = state.checks action := by
  cases action with
  | execute word => exact instructionChecks_withFault _ _ _
  | _ => rfl

theorem performWith_withFault (code : UInt8) (instruction : Instruction) :
    (state.withFault code).performWith Edge.last instruction =
      (state.performWith Edge.last instruction).withFault
        ((state.withFault code).performWith Edge.last instruction).fault := by
  cases instruction with
  | skipEqByte | skipNeByte | skipEqRegister | skipNeRegister | skipKeyDown | skipKeyUp =>
    simp only [performWith, skipIfKey, skipIf_eq]
    rfl
  | awaitKey x =>
    simp only [performWith, awaitKey_eq]
    rfl
  -- Unfolded by name, so that the comparison of the two sides does not run the write or the drawing.
  | storeRegisters x =>
    simp only [performWith, storeRegisters, writeMemory, latch, withFault]
    rfl
  | draw x y height =>
    simp only [performWith, draw, setFlag, setRegister, latch, withFault]
    rfl
  | _ => rfl

/-- An action does the same to a state with a fault as to one without, and keeps the fault. -/
theorem act_withFault {code : UInt8} (faulty : code ≠ Fault.healthy) (action : Action) :
    (state.withFault code).act action = (state.act action).withFault code := by
  have kept : ((state.withFault code).act action).fault = code :=
    (act_fault _ _).trans (if_neg faulty)
  have others : (state.withFault code).act action =
      (state.act action).withFault ((state.withFault code).act action).fault := by
    cases action with
    | execute word => exact performWith_withFault _ _ _
    | _ => rfl
  rw [others, kept]

theorem after_withFault {code : UInt8} (faulty : code ≠ Fault.healthy) (actions : List Action) :
    (state.withFault code).after actions = (state.after actions).withFault code := by
  induction actions generalizing state with
  | nil => rfl
  | cons action rest ih => rw [after_cons, after_cons, act_withFault _ faulty, ih]

theorem checksDuring_withFault {code : UInt8} (faulty : code ≠ Fault.healthy)
    (actions : List Action) :
    (state.withFault code).checksDuring actions = state.checksDuring actions := by
  induction actions generalizing state with
  | nil => rfl
  | cons action rest ih =>
    rw [checksDuring, checksDuring, checks_withFault, act_withFault _ faulty, ih]

end State

/-- The first fault stays. On a state with a fault a sequence of actions leaves the fault as it is. On a
healthy state it leaves the code of the first of all its checks that fails, and none if none does. What
else the sequence does, and what it checks on the way, is the same with a fault and without. -/
theorem first_fault_kept (state : State) (actions : List State.Action) :
    (state.fault ≠ Fault.healthy → (state.after actions).fault = state.fault) ∧
    (state.fault = Fault.healthy →
      (state.after actions).fault = Check.firstCode (state.checksDuring actions)) ∧
    (∀ code, code ≠ Fault.healthy →
      (state.withFault code).after actions = (state.after actions).withFault code ∧
      (state.withFault code).checksDuring actions = state.checksDuring actions) := by
  have recorded := state.after_fault actions
  refine ⟨fun faulty => ?_, fun healthy => ?_, fun code faulty => ⟨?_, ?_⟩⟩
  · rwa [if_neg faulty] at recorded
  · rwa [if_pos healthy] at recorded
  · exact state.after_withFault faulty actions
  · exact state.checksDuring_withFault faulty actions

/-- A machine at the last word, with a sprite that leaves both memory and the screen. -/
def State.atLastWord : State :=
  { State.initial ⟨0, 0⟩ with
    memory := State.initialMemory.write 0xFFF [0x80]
    registers := Vector.replicate 16 0xFF
    index := 0xFFF
    pc := 0xFFE }

/-- Two fetches, a sprite, a return that has no call, and two checks of a caller's own. -/
def State.Action.mishaps : List State.Action :=
  [.fetch, .record ⟨false, 9, by decide⟩, .execute 0xD012, .fetch, .execute 0x00EE, .tick,
    .record ⟨true, 255, by decide⟩]

/-- Of the seven checks five fail. The first of them is that of the sprite's bytes, and a fault that was
there before it outlasts them all. The first two checks alone leave the machine healthy. -/
theorem first_fault_kept_mishaps :
    State.atLastWord.fault = Fault.healthy ∧
    ((State.atLastWord.checksDuring State.Action.mishaps).map fun check =>
      (check.fails, check.code)) =
        [(false, 1), (false, 9), (true, 1), (true, 4), (true, 1), (true, 3), (true, 255)] ∧
    (State.atLastWord.after (State.Action.mishaps.take 2)).fault = Fault.healthy ∧
    (State.atLastWord.after State.Action.mishaps).fault = Fault.memory.code ∧
    (State.atLastWord.withFault 9).fault ≠ Fault.healthy ∧
    ((State.atLastWord.withFault 9).after State.Action.mishaps).fault = 9 ∧
    (State.atLastWord.withFault 9).after State.Action.mishaps =
      (State.atLastWord.after State.Action.mishaps).withFault 9 := by
  have healthy : State.atLastWord.fault = Fault.healthy := rfl
  have faulty : (State.atLastWord.withFault 9).fault ≠ Fault.healthy := by decide
  have checked : ((State.atLastWord.checksDuring State.Action.mishaps).map fun check =>
      (check.fails, check.code)) =
        [(false, 1), (false, 9), (true, 1), (true, 4), (true, 1), (true, 3), (true, 255)] := by
    decide +kernel
  have noneFailed : Check.firstCode (State.atLastWord.checksDuring (State.Action.mishaps.take 2)) =
      Fault.healthy := by
    decide +kernel
  have first : Check.firstCode (State.atLastWord.checksDuring State.Action.mishaps) =
      Fault.memory.code := by
    decide +kernel
  have passed := (first_fault_kept State.atLastWord (State.Action.mishaps.take 2)).2.1 healthy
  obtain ⟨-, recorded, others⟩ := first_fault_kept State.atLastWord State.Action.mishaps
  have kept := (first_fault_kept (State.atLastWord.withFault 9) State.Action.mishaps).1 faulty
  exact ⟨healthy, checked, passed.trans noneFailed, (recorded healthy).trans first, faulty, kept,
    (others 9 faulty).1⟩

end Chip8
