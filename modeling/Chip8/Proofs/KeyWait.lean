import Chip8.Proofs.FaultCondition
import Chip8.Proofs.Run

/-!
# Waits for a key

An instruction that waits for a key ends in one of two ways. With a key down it takes the lowest one
at once; with no key down the machine waits, and the step that finds a key takes it then. Both ways
come to the same state, however long the wait is and whatever keys are tapped between its steps.

Results:
1. `lowest?_eq_some_iff`, `lowest?_pressing`: the key that is taken.
2. `Sound.step_of_keyDown`, `Sound.step_of_allUp`, `step_of_waiting_allUp`,
   `step_of_waiting_keyDown`: the two ways, step by step.
3. `waiting_after`: nothing but the keypad changes during a wait.
4. `waits_agree`: the two ways lead to the same state.
-/

namespace Chip8

/-! ## The lowest key that is down -/

namespace Keypad

variable {keys : Keypad}

theorem finIdxOf?_eq_some_iff {size : Nat} {cells : Vector Bool size} {place : Fin size} :
    cells.finIdxOf? true = some place ↔
      cellAt cells place = true ∧ ∀ other < place, cellAt cells other = false := by
  obtain ⟨entries, rfl⟩ := cells
  simp [cellAt, Array.finIdxOf?_eq_some_iff]

theorem finIdxOf?_eq_none_iff {size : Nat} {cells : Vector Bool size} :
    cells.finIdxOf? true = none ↔ ∀ place, cellAt cells place = false := by
  obtain ⟨entries, rfl⟩ := cells
  simp [cellAt, Array.finIdxOf?_eq_none_iff, Array.mem_iff_getElem, Fin.forall_iff]

theorem lowest?_eq_some_iff {key : Fin 16} :
    keys.lowest? = some key ↔ cellAt keys key = true ∧ ∀ other < key, cellAt keys other = false :=
  finIdxOf?_eq_some_iff

theorem lowest?_eq_none_iff : keys.lowest? = none ↔ ∀ key, cellAt keys key = false :=
  finIdxOf?_eq_none_iff

/-- The keypad after keys were pressed one by one. -/
def press (keys : Keypad) (pressed : List (Fin 16)) : Keypad :=
  pressed.foldl (fun keys key => putCell keys key true) keys

theorem cellAt_press (pressed : List (Fin 16)) (key : Fin 16) :
    cellAt (press keys pressed) key = true ↔ key ∈ pressed ∨ cellAt keys key = true := by
  induction pressed generalizing keys with
  | nil => simp [press]
  | cons first rest ih =>
    have unfolded : press keys (first :: rest) = press (putCell keys first true) rest := rfl
    rw [unfolded, ih, cellAt_putCell, List.mem_cons]
    by_cases same : first = key
    · simp [same]
    · simp [same, Ne.symm same]

/-- Of the keys that are pressed when none is down the lowest is taken. -/
theorem lowest?_press (allUp : ∀ key, cellAt keys key = false) {pressed : List (Fin 16)}
    (nonempty : pressed ≠ []) :
    ∃ key ∈ pressed, (∀ other ∈ pressed, key ≤ other) ∧
      lowest? (press keys pressed) = some key := by
  have down (key : Fin 16) : cellAt (press keys pressed) key = true ↔ key ∈ pressed := by
    simp [cellAt_press, allUp]
  cases found : lowest? (press keys pressed) with
  | none =>
    obtain ⟨key, inside⟩ := List.exists_mem_of_ne_nil pressed nonempty
    have up := lowest?_eq_none_iff.mp found key
    rw [(down key).mpr inside] at up
    cases up
  | some key =>
    obtain ⟨isDown, below⟩ := lowest?_eq_some_iff.mp found
    refine ⟨key, (down key).mp isDown, fun other inside => ?_, rfl⟩
    rw [← Fin.not_lt]
    intro less
    have up := below other less
    rw [(down other).mpr inside] at up
    cases up

end Keypad

theorem setIfInBounds_eq_putCell {α : Type} {size : Nat} (cells : Vector α size)
    (place : Fin size) (value : α) :
    cells.setIfInBounds place.val value = putCell cells place value :=
  cells_ext fun other => by
    simp [cellAt, putCell, Vector.getElem_setIfInBounds, Vector.getElem_set]

namespace State

/-! ## The steps of a wait -/

/-- The state behind the fetch of a word in memory. -/
def wordFetched (state : State) : State :=
  { state.clearReports with pc := state.pc + 2, opcode := state.word }

/-- The state after the word at the program counter took a key. -/
def keyTaken (state : State) (x key : Fin 16) : State :=
  (state.wordFetched.setRegister x (UInt8.ofNat key)).tick

/-- The state after the word at the program counter began to wait. -/
def waitBegun (state : State) (x : Fin 16) : State :=
  { state.wordFetched with mode := Mode.awaitingKey, waitRegister := UInt8.ofNat x }

variable {state : State}

theorem keyTaken_fields (x key : Fin 16) (inMemory : state.pc.toNat ≤ 0xFFE) :
    (state.keyTaken x key).registers = putCell state.registers x (UInt8.ofNat key) ∧
      (state.keyTaken x key).pc.toNat = state.pc.toNat + 2 ∧
      (state.keyTaken x key).delayTimer.toNat = state.delayTimer.toNat - 1 ∧
      (state.keyTaken x key).soundTimer.toNat = state.soundTimer.toNat - 1 := by
  refine ⟨rfl, ?_, toNat_countDown _, toNat_countDown _⟩
  have behind : (state.keyTaken x key).pc = state.pc + 2 := rfl
  rw [behind, UInt16.toNat_add]
  simp only [UInt16.reduceToNat]
  omega

theorem ofWord_of_wait (word : state.word &&& 0xF0FF = 0xF00A) :
    Instruction.ofWord state.word = .awaitKey (Word.x state.operands) := by
  have kind : classify state.operands = .awaitKey :=
    (op_word_iff ⟨0xF0FF, 0xF00A, .awaitKey⟩ (by decide)).mpr word
  rw [Instruction.ofWord, Instruction.decode, ← operands, kind]

theorem awaitKey_of_keyDown {x key : Fin 16} (down : state.keypad.lowest? = some key) :
    state.awaitKey x = state.setRegister x (UInt8.ofNat key) := by
  rw [awaitKey, down]

theorem awaitKey_of_allUp {x : Fin 16} (up : state.keypad.lowest? = none) :
    state.awaitKey x =
      { state with mode := Mode.awaitingKey, waitRegister := UInt8.ofNat x } := by
  rw [awaitKey, up]

/-- A wait passes every check, so that its instruction is kept. -/
theorem Sound.step_of_wait (sound : state.Sound) (healthy : state.fault = Fault.healthy)
    (running : state.mode = Mode.running) (inMemory : state.pc.toNat ≤ 0xFFE)
    (word : state.word &&& 0xF0FF = 0xF00A) :
    state.step = (state.wordFetched.awaitKey (Word.x state.operands)).tickIfRunning := by
  have inReach : ¬ 0xFFF < state.pc + 1 := mt sound.pastMemory_iff.mp (Nat.not_lt.mpr inMemory)
  have committed := sound.committed_of_passed healthy running inMemory (ofWord_of_wait word) rfl
  have fetched : (state.clearReports.fetchWith Edge.last).state = state.wordFetched := by
    rw [fetchWith_state, fetchedWord_eq _ state.clearReports inMemory,
      if_neg fun past => inReach past.1]
    rfl
  rw [step_of_committed committed, executedWith, fetched, fetchedInstruction_clearReports,
    sound.read_of_committed committed]
  rfl

theorem Sound.step_of_keyDown (sound : state.Sound) (healthy : state.fault = Fault.healthy)
    (running : state.mode = Mode.running) (inMemory : state.pc.toNat ≤ 0xFFE)
    (word : state.word &&& 0xF0FF = 0xF00A) {key : Fin 16}
    (down : state.keypad.lowest? = some key) :
    state.step = state.keyTaken (Word.x state.operands) key := by
  have downNext : state.wordFetched.keypad.lowest? = some key := down
  rw [sound.step_of_wait healthy running inMemory word, awaitKey_of_keyDown downNext]
  exact if_pos running

theorem Sound.step_of_allUp (sound : state.Sound) (healthy : state.fault = Fault.healthy)
    (running : state.mode = Mode.running) (inMemory : state.pc.toNat ≤ 0xFFE)
    (word : state.word &&& 0xF0FF = 0xF00A) (up : state.keypad.lowest? = none) :
    state.step = state.waitBegun (Word.x state.operands) := by
  have upNext : state.wordFetched.keypad.lowest? = none := up
  rw [sound.step_of_wait healthy running inMemory word, awaitKey_of_allUp upNext]
  exact if_neg (by decide : Mode.awaitingKey ≠ Mode.running)

/-- A waiting step with no key down only withdraws reports. -/
theorem step_of_waiting_allUp (healthy : state.fault = Fault.healthy)
    (waiting : state.mode = Mode.awaitingKey) (up : state.keypad.lowest? = none) :
    state.step = state.clearReports := by
  have notRunning : state.mode ≠ Mode.running := waiting ▸ by decide
  have lowest : state.clearReports.keypad.lowest? = none := up
  rw [step, stepWith_of_waiting _ _ healthy notRunning, pollKeypad_eq, lowest]

/-- A waiting step with a key down takes the lowest one and lets the timers count. -/
theorem step_of_waiting_keyDown (healthy : state.fault = Fault.healthy)
    (waiting : state.mode = Mode.awaitingKey) {key : Fin 16}
    (down : state.keypad.lowest? = some key) :
    state.step =
      { state.clearReports.tick with
        registers := state.registers.setIfInBounds state.waitRegister.toNat (UInt8.ofNat key)
        mode := Mode.running } := by
  have notRunning : state.mode ≠ Mode.running := waiting ▸ by decide
  have lowest : state.clearReports.keypad.lowest? = some key := down
  rw [step, stepWith_of_waiting _ _ healthy notRunning, pollKeypad_eq, lowest]
  rfl

/-- A wait that was begun and then ended leaves what taking the key at once leaves, but for the
register that the wait was noted with. -/
theorem step_of_waitBegun (healthy : state.fault = Fault.healthy)
    (running : state.mode = Mode.running) {keys : Keypad} {x key : Fin 16}
    (down : keys.lowest? = some key) :
    { state.waitBegun x with keypad := keys }.step =
      { { state with keypad := keys }.keyTaken x key with waitRegister := UInt8.ofNat x } := by
  have register : (UInt8.ofNat x).toNat = x.val := by
    rw [UInt8.toNat_ofNat']
    omega
  have healthyNext : ({ state.waitBegun x with keypad := keys } : State).fault = Fault.healthy :=
    healthy
  rw [step_of_waiting_keyDown healthyNext rfl down, ← running]
  simp only [waitBegun, register, setIfInBounds_eq_putCell]
  rfl

end State

namespace Machine

variable {machine : Machine}

/-! ## Keys pressed and released by a host -/

/-- No key is down. -/
def AllUp (machine : Machine) : Prop :=
  ∀ key, cellAt machine.state.keypad key = false

/-- Presses keys one after the other. -/
def presses (keys : List (Fin 16)) : List Command :=
  keys.map fun key => .keyDown key.val

theorem after_presses (keys : List (Fin 16)) :
    (machine.after (presses keys)).state =
      { machine.state with keypad := Keypad.press machine.state.keypad keys } := by
  induction keys generalizing machine with
  | nil => rfl
  | cons key rest ih =>
    have pressed : (machine.obey (.keyDown key.val)).machine.state =
        { machine.state with keypad := putCell machine.state.keypad key true } := by
      have onKeypad : 0 ≤ (key.val : Int) ∧ (key.val : Int) < 16 := by omega
      rw [obey_state]
      simp only [setKey_state, if_pos onKeypad, Int.toNat_natCast, setIfInBounds_eq_putCell]
    rw [presses, List.map_cons, after_cons, ← presses, ih, pressed]
    rfl

/-- A host that only moves keys and takes steps, with no key down at the steps and at the end. -/
structure Idles (machine : Machine) (commands : List Command) : Prop where
  keysAndSteps : ∀ command ∈ commands,
    command = .step ∨ ∃ key, command = .keyDown key ∨ command = .keyUp key
  allUpAtSteps : ∀ before rest, commands = before ++ .step :: rest → (machine.after before).AllUp
  allUpAtEnd : (machine.after commands).AllUp

/-- An operation that keeps a wait going changes nothing but the keypad. -/
theorem waiting_obey (healthy : machine.state.fault = Fault.healthy)
    (waiting : machine.state.mode = Mode.awaitingKey)
    (quiet : machine.state.unknownOpcode = false ∧ machine.state.tone = false) {command : Command}
    (keyOrStep : command = .step ∨ ∃ key, command = .keyDown key ∨ command = .keyUp key)
    (allUpAtStep : command = .step → machine.AllUp) :
    (machine.obey command).machine.state =
      { machine.state with keypad := (machine.obey command).machine.state.keypad } := by
  rcases keyOrStep with rfl | ⟨key, rfl | rfl⟩
  · have up := Keypad.lowest?_eq_none_iff.mpr (allUpAtStep rfl)
    have idle : machine.state.step = machine.state := by
      rw [State.step_of_waiting_allUp healthy waiting up,
        State.clearReports_of_quiet quiet.1 quiet.2]
    have result : (machine.obey .step).machine.state = machine.state := by
      rw [obey_state]
      simp only [idle, ite_self]
    rw [result]
  · rw [obey_state]
    simp only [setKey_state]
  · rw [obey_state]
    simp only [setKey_state]

/-- Nothing but the keypad changes as long as a wait goes on. -/
theorem waiting_after (healthy : machine.state.fault = Fault.healthy)
    (waiting : machine.state.mode = Mode.awaitingKey)
    (quiet : machine.state.unknownOpcode = false ∧ machine.state.tone = false)
    {commands : List Command}
    (keysAndSteps : ∀ command ∈ commands,
      command = .step ∨ ∃ key, command = .keyDown key ∨ command = .keyUp key)
    (allUpAtSteps : ∀ before rest, commands = before ++ .step :: rest →
      (machine.after before).AllUp) :
    (machine.after commands).state =
      { machine.state with keypad := (machine.after commands).state.keypad } := by
  induction commands generalizing machine with
  | nil => rfl
  | cons command rest ih =>
    have next := waiting_obey healthy waiting quiet (keysAndSteps _ List.mem_cons_self)
      fun isStep => allUpAtSteps [] rest (congrArg (· :: rest) isStep)
    have rest := ih (by rw [next]; exact healthy) (by rw [next]; exact waiting)
      (by rw [next]; exact quiet)
      (fun later inside => keysAndSteps later (List.mem_cons_of_mem _ inside))
      (fun before behind split =>
        allUpAtSteps (command :: before) behind (congrArg (command :: ·) split))
    rw [after_cons, rest, next]

/-- At any point of an idle wait the machine is as the wait left it, but for the keypad. -/
theorem waiting_before (sound : machine.state.Sound)
    (healthy : machine.state.fault = Fault.healthy) (running : machine.state.mode = Mode.running)
    (allUp : machine.AllUp) (inMemory : machine.state.pc.toNat ≤ 0xFFE)
    (word : machine.state.word &&& 0xF0FF = 0xF00A) {idle : List Command}
    (idles : (machine.obey .step).machine.Idles idle) {before behind : List Command}
    (split : idle = before ++ behind) :
    (machine.after ([.step] ++ before)).state =
      { machine.state.waitBegun (Word.x machine.state.operands) with
        keypad := (machine.after ([.step] ++ before)).state.keypad } := by
  have begun : (machine.obey .step).machine.state =
      machine.state.waitBegun (Word.x machine.state.operands) := by
    rw [Sound.obey_step sound]
    exact sound.step_of_allUp healthy running inMemory word (Keypad.lowest?_eq_none_iff.mpr allUp)
  have waited : ((machine.obey .step).machine.after before).state =
      { (machine.obey .step).machine.state with
        keypad := ((machine.obey .step).machine.after before).state.keypad } := by
    refine waiting_after (by rw [begun]; exact healthy) (by rw [begun]; rfl)
      (by rw [begun]; exact ⟨rfl, rfl⟩) (fun command inside => ?_) (fun first rest part => ?_)
    · exact idles.keysAndSteps command (split ▸ List.mem_append_left behind inside)
    · refine idles.allUpAtSteps first (rest ++ behind) ?_
      rw [split, part, List.append_assoc, List.cons_append]
  rw [begun] at waited
  exact waited

/-- A wait that is begun, kept up and ended by the keys that are pressed at last. -/
theorem after_wait_deferred (sound : machine.state.Sound)
    (healthy : machine.state.fault = Fault.healthy) (running : machine.state.mode = Mode.running)
    (allUp : machine.AllUp) (inMemory : machine.state.pc.toNat ≤ 0xFFE)
    (word : machine.state.word &&& 0xF0FF = 0xF00A) {idle : List Command}
    (idles : (machine.obey .step).machine.Idles idle) {keys : List (Fin 16)} {key : Fin 16}
    (down : Keypad.lowest? (Keypad.press machine.state.keypad keys) = some key) :
    (machine.after ([.step] ++ idle ++ presses keys ++ [.step])).state =
      { { machine.state with keypad := Keypad.press machine.state.keypad keys }.keyTaken
          (Word.x machine.state.operands) key with
        waitRegister := UInt8.ofNat (Word.x machine.state.operands) } := by
  -- No key is down at the end of the wait, as none was at its beginning.
  have sameKeys : (machine.after ([.step] ++ idle)).state.keypad = machine.state.keypad :=
    cells_ext fun key => (idles.allUpAtEnd key).trans (allUp key).symm
  have waited := waiting_before sound healthy running allUp inMemory word idles
    (List.append_nil idle).symm
  have pressed : (machine.after ([.step] ++ idle ++ presses keys)).state =
      { machine.state.waitBegun (Word.x machine.state.operands) with
        keypad := Keypad.press machine.state.keypad keys } := by
    rw [after_append, after_presses, waited, sameKeys]
  have soundPressed := sound_after sound ([.step] ++ idle ++ presses keys)
  rw [after_append]
  refine (Sound.obey_step soundPressed).trans ?_
  rw [pressed]
  exact State.step_of_waitBegun healthy running down

/-- A wait that finds a key down. -/
theorem after_wait_immediate (sound : machine.state.Sound)
    (healthy : machine.state.fault = Fault.healthy) (running : machine.state.mode = Mode.running)
    (inMemory : machine.state.pc.toNat ≤ 0xFFE) (word : machine.state.word &&& 0xF0FF = 0xF00A)
    {keys : List (Fin 16)} {key : Fin 16}
    (down : Keypad.lowest? (Keypad.press machine.state.keypad keys) = some key) :
    (machine.after (presses keys ++ [.step])).state =
      { machine.state with keypad := Keypad.press machine.state.keypad keys }.keyTaken
        (Word.x machine.state.operands) key := by
  have soundPressed := sound_after sound (presses keys)
  rw [after_append]
  refine (Sound.obey_step soundPressed).trans ?_
  rw [after_presses] at soundPressed ⊢
  exact soundPressed.step_of_keyDown healthy running inMemory word down

/-- A step of an idle wait withdraws reports and does nothing else. -/
theorem obey_step_of_idle (sound : machine.state.Sound)
    (healthy : machine.state.fault = Fault.healthy) (running : machine.state.mode = Mode.running)
    (allUp : machine.AllUp) (inMemory : machine.state.pc.toNat ≤ 0xFFE)
    (word : machine.state.word &&& 0xF0FF = 0xF00A) {idle : List Command}
    (idles : (machine.obey .step).machine.Idles idle) {before rest : List Command}
    (split : idle = before ++ .step :: rest) :
    ((machine.after ([.step] ++ before)).obey .step).machine.state =
      (machine.after ([.step] ++ before)).state.clearReports := by
  have waited := waiting_before sound healthy running allUp inMemory word idles split
  have up := Keypad.lowest?_eq_none_iff.mpr (idles.allUpAtSteps before rest split)
  rw [Sound.obey_step (sound_after sound _)]
  exact State.step_of_waiting_allUp (by rw [waited]; exact healthy) (by rw [waited]; rfl) up

end Machine

/-- Waiting for a key makes no difference. Take a machine with no key down at a word that waits. To
take that step, to stay idle for any number of steps with keys tapped between them, and then to
press some keys and take a step leaves the same state as to press the keys first and take one step,
but for the register that the wait was noted with. Both ways the lowest of the keys is stored, the
program counter moves by one word and each timer counts once; an idle step changes nothing. -/
theorem waits_agree {machine : Machine} (reached : machine.state.Reachable)
    (healthy : machine.state.fault = Fault.healthy) (running : machine.state.mode = Mode.running)
    (allUp : machine.AllUp) (inMemory : machine.state.pc.toNat ≤ 0xFFE)
    (word : machine.state.word &&& 0xF0FF = 0xF00A) {idle : List Machine.Command}
    (idles : (machine.obey .step).machine.Idles idle) {keys : List (Fin 16)}
    (nonempty : keys ≠ []) :
    let deferred := (machine.after ([.step] ++ idle ++ Machine.presses keys ++ [.step])).state
    let immediate := (machine.after (Machine.presses keys ++ [.step])).state
    deferred = { immediate with waitRegister := deferred.waitRegister } ∧
    (∃ key ∈ keys, (∀ other ∈ keys, key ≤ other) ∧ ∀ ended ∈ [deferred, immediate],
      ended.registers =
        putCell machine.state.registers (Word.x machine.state.operands) (UInt8.ofNat key) ∧
      ended.pc.toNat = machine.state.pc.toNat + 2 ∧
      ended.delayTimer.toNat = machine.state.delayTimer.toNat - 1 ∧
      ended.soundTimer.toNat = machine.state.soundTimer.toNat - 1) ∧
    (∀ before rest, idle = before ++ .step :: rest →
      let waiting := machine.after ([.step] ++ before)
      (waiting.obey .step).machine.state =
        { waiting.state with unknownOpcode := false, tone := false }) := by
  intro deferred immediate
  have sound := reached.sound
  obtain ⟨key, inside, least, down⟩ := Keypad.lowest?_press allUp nonempty
  have deferredEq : deferred = _ :=
    Machine.after_wait_deferred sound healthy running allUp inMemory word idles down
  have immediateEq : immediate = _ :=
    Machine.after_wait_immediate sound healthy running inMemory word down
  refine ⟨?_, ⟨key, inside, least, ?_⟩, fun before rest split => ?_⟩
  · rw [deferredEq, immediateEq]
  · rintro ended isEnded
    rcases List.mem_pair.mp isEnded with rfl | rfl
    · rw [deferredEq]
      exact State.keyTaken_fields _ key inMemory
    · rw [immediateEq]
      exact State.keyTaken_fields _ key inMemory
  · exact Machine.obey_step_of_idle sound healthy running allUp inMemory word idles split

/-- A machine that has set its delay timer and is about to wait for a key. -/
def Machine.beforeWait : Machine :=
  (Machine.fresh ⟨0, 0⟩ false).after
    [.load #[0x60, 0x05, 0xF0, 0x15, 0xF3, 0x0A], .step, .step]

/-- What a host does that taps a key between two steps of the wait. -/
def Machine.tapping : List Machine.Command :=
  [.step, .keyDown 5, .keyUp 5, .step]

/-- The lower of two keys is taken, and the delay timer counts once. -/
theorem waits_agree_tapping :
    Machine.beforeWait.state.Reachable ∧
    Machine.beforeWait.state.fault = Fault.healthy ∧
    Machine.beforeWait.state.mode = Mode.running ∧
    Machine.beforeWait.AllUp ∧
    Machine.beforeWait.state.pc.toNat ≤ 0xFFE ∧
    Machine.beforeWait.state.word &&& 0xF0FF = 0xF00A ∧
    (Machine.beforeWait.obey .step).machine.Idles Machine.tapping ∧
    ([7, 2] : List (Fin 16)) ≠ [] ∧
    let deferred :=
      (Machine.beforeWait.after
        ([.step] ++ Machine.tapping ++ Machine.presses [7, 2] ++ [.step])).state
    let immediate := (Machine.beforeWait.after (Machine.presses [7, 2] ++ [.step])).state
    deferred = { immediate with waitRegister := deferred.waitRegister } ∧
    immediate.registers = putCell Machine.beforeWait.state.registers 3 2 ∧
    deferred.pc.toNat = 0x206 ∧ deferred.delayTimer.toNat = 3 := by
  have reached : Machine.beforeWait.state.Reachable := ⟨_, _, _, rfl⟩
  obtain ⟨healthy, running, inMemory, word, names, address, timer⟩ :
      Machine.beforeWait.state.fault = Fault.healthy ∧
      Machine.beforeWait.state.mode = Mode.running ∧
      Machine.beforeWait.state.pc.toNat ≤ 0xFFE ∧
      Machine.beforeWait.state.word &&& 0xF0FF = 0xF00A ∧
      Word.x Machine.beforeWait.state.operands = 3 ∧
      Machine.beforeWait.state.pc.toNat = 0x204 ∧
      Machine.beforeWait.state.delayTimer.toNat = 4 := by
    decide +kernel
  have allUp : Machine.beforeWait.AllUp := by
    unfold Machine.AllUp
    decide +kernel
  have idles : (Machine.beforeWait.obey .step).machine.Idles Machine.tapping := by
    have up : ∀ before ∈ [[], [.step, .keyDown 5, .keyUp 5], Machine.tapping], ∀ key,
        cellAt ((Machine.beforeWait.obey .step).machine.after before).state.keypad key = false := by
      decide +kernel
    refine ⟨by simp [Machine.tapping], fun before rest split => up before ?_, up _ (by simp)⟩
    rcases before with _ | ⟨first, _ | ⟨second, _ | ⟨third, _ | ⟨fourth, before⟩⟩⟩⟩ <;>
      simp_all [Machine.tapping]
  obtain ⟨agree, ⟨key, inside, least, taken⟩, -⟩ :=
    waits_agree reached healthy running allUp inMemory word idles
      (by decide : ([7, 2] : List (Fin 16)) ≠ [])
  have lowest : key = 2 := by
    have atMost := least 2 (by decide)
    rcases List.mem_pair.mp inside with rfl | rfl
    · exact absurd atMost (by decide)
    · rfl
  obtain ⟨-, pc, delay, -⟩ := taken _ List.mem_cons_self
  obtain ⟨registers, -⟩ := taken _ (List.mem_cons_of_mem _ List.mem_cons_self)
  rw [names, lowest] at registers
  rw [address] at pc
  rw [timer] at delay
  exact ⟨reached, healthy, running, allUp, inMemory, word, idles, by decide, agree, registers, pc,
    delay⟩

end Chip8
