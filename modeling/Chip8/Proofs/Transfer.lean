import Chip8.Machine
import Chip8.Proofs.Pattern
import Chip8.Proofs.Window

/-!
# Stores and loads undo each other

A store copies the registers up to `VX` to the bytes from `I` on, a load copies them back. Both go
through sixteen addresses, of which the last ones may lie past memory. What counts are the addresses
up to that of `VX`: if they are in memory, a load takes back what was stored, and a store puts back
what was loaded.

Results:
1. `storeRegisters_of_inMemory`, `loadRegisters_of_inMemory`: all that a store and a load change.
2. `splice_window_of_stored`, `stored_of_loaded`: each copy undoes the other.
3. `stores_loads_inverse`: the same for words, on every state.
-/

namespace Chip8

namespace State

variable {state : State} {x : Fin 16}

/-! ## All that a store and a load change -/

theorem windowPastMemory_of_inMemory (inMemory : state.index.toNat + x.val ≤ 0xFFF) :
    state.windowPastMemory x = false :=
  decide_eq_false (Nat.not_lt.mpr inMemory)

theorem storeRegisters_of_inMemory (inMemory : state.index.toNat + x.val ≤ 0xFFF) (edge : Edge) :
    state.storeRegisters edge x = { state with memory := state.stored edge x } := by
  simp only [storeRegisters, writeMemory, latch, windowPastMemory_of_inMemory inMemory,
    Bool.false_and, Bool.false_eq_true, if_false, stored]

theorem loadRegisters_of_inMemory (inMemory : state.index.toNat + x.val ≤ 0xFFF) (edge : Edge) :
    state.loadRegisters edge x =
      { state with registers := spliceAt x (state.window edge) state.registers } := by
  simp only [loadRegisters, latch, windowPastMemory_of_inMemory inMemory, Bool.false_and,
    Bool.false_eq_true, if_false]

/-! ## Each copy undoes the other -/

/-- A load takes the bytes from `I` on. -/
theorem cellAt_splice_window_of_inMemory (inMemory : state.index.toNat + x.val ≤ 0xFFF)
    (edge : Edge) (others : Registers) (place : Fin 16) :
    cellAt (spliceAt x (state.window edge) others) place =
      if place ≤ x then state.byteAt (state.index.toNat + place) else cellAt others place := by
  rw [cellAt_spliceAt, cellAt_window]
  by_cases counts : place ≤ x
  · have bound := Fin.le_def.mp counts
    rw [if_pos counts, if_pos counts, readMemory_eq_byteAt _ _ (by omega)]
  · rw [if_neg counts, if_neg counts]

/-- A store leaves each register up to `VX` at its address. -/
theorem getElem?_stored (inMemory : state.index.toNat + x.val ≤ 0xFFF) (edge : Edge) {place : Fin 16}
    (counts : place ≤ x) :
    (state.stored edge x)[state.index.toNat + place.val]? = some (state.register place) := by
  have bound := Fin.le_def.mp counts
  have inside : state.index.toNat + place.val < 4096 := by omega
  have written : cellAt (state.stored edge x) ⟨_, inside⟩ = _ := cellAt_stored edge x _
  rw [dif_pos ⟨Nat.le_add_right _ _, Nat.add_le_add_left bound _⟩] at written
  rw [Vector.getElem?_eq_getElem inside, Option.some_inj]
  simpa only [cellAt, register, Fin.getElem_fin, Nat.add_sub_cancel_left] using written

/-- A load from memory with a store in it takes the registers that were stored. -/
theorem splice_window_of_stored {loading : State} {edge : Edge}
    (inMemory : state.index.toNat + x.val ≤ 0xFFF) (sameIndex : loading.index = state.index)
    (stored : loading.memory = state.stored edge x) (others : Registers) (place : Fin 16) :
    cellAt (spliceAt x (loading.window edge) others) place =
      if place ≤ x then state.register place else cellAt others place := by
  rw [cellAt_splice_window_of_inMemory (sameIndex ▸ inMemory)]
  refine ite_congr rfl (fun counts => ?_) fun _ => rfl
  rw [byteAt, stored, sameIndex, getElem?_stored inMemory edge counts, Option.getD_some]

/-- A store of registers that were loaded writes each byte to the place that it came from. -/
theorem stored_of_loaded {storing : State} {edge : Edge} (sameIndex : storing.index = state.index)
    (sameMemory : storing.memory = state.memory)
    (loaded : storing.registers = spliceAt x (state.window edge) state.registers) :
    storing.stored edge x = state.memory := by
  refine cells_ext fun place => ?_
  rw [cellAt_stored, sameMemory]
  split
  · next inside =>
    rw [sameIndex] at inside
    have counts : (⟨place.val - storing.index.toNat, by omega⟩ : Fin 16) ≤ x :=
      Fin.le_def.mpr (by simp only [sameIndex]; omega)
    have here : state.index.toNat + (place.val - storing.index.toNat) = place.val := by
      rw [sameIndex]
      omega
    rw [loaded, cellAt_spliceAt, if_pos counts, cellAt_window, readMemory, here,
      readCell_of_lt place.isLt]
    rfl
  · rfl

/-! ## Words -/

theorem execute_store {word : Int32} (stores : word.toUInt32 &&& 0xF0FF = 0xF055)
    (inMemory : state.index.toNat + (Word.x word).val ≤ 0xFFF) :
    state.execute word = { state with memory := state.stored Edge.last (Word.x word) } := by
  have kind : classify word = .storeRegisters :=
    classify_of_digits ⟨0xF0FF, 0xF055, .storeRegisters⟩ (by decide) stores
  rw [execute, executeWith, Instruction.decode, kind]
  exact storeRegisters_of_inMemory inMemory _

theorem execute_load {word : Int32} (loads : word.toUInt32 &&& 0xF0FF = 0xF065)
    (inMemory : state.index.toNat + (Word.x word).val ≤ 0xFFF) :
    state.execute word =
      { state with
        registers := spliceAt (Word.x word) (state.window Edge.last) state.registers } := by
  have kind : classify word = .loadRegisters :=
    classify_of_digits ⟨0xF0FF, 0xF065, .loadRegisters⟩ (by decide) loads
  rw [execute, executeWith, Instruction.decode, kind]
  exact loadRegisters_of_inMemory inMemory _

end State

/-- Stores and loads undo each other. Take a word that stores and one that loads the registers up to
the same `VX`, and a state, halted or not, whose bytes from `I` to that of `VX` are in memory; the
sixteen addresses of the window may run past it. The store writes each of these registers to its
address and changes no other byte and no other field. A load behind it, into registers that hold
anything by then, takes back those that were stored, leaves the ones behind `VX` and changes nothing
else. A load changes these registers only, and a store behind it changes nothing at all. -/
theorem stores_loads_inverse {state : State} {store load : Int32}
    (stores : store.toUInt32 &&& 0xF0FF = 0xF055) (loads : load.toUInt32 &&& 0xF0FF = 0xF065)
    (same : Word.x load = Word.x store)
    (inMemory : state.index.toNat + (Word.x store).val ≤ 0xFFF) :
    let x := Word.x store
    let stored := state.execute store
    let loaded := state.execute load
    (stored = { state with memory := stored.memory } ∧
      (∀ register ≤ x,
        stored.memory[state.index.toNat + register.val]? = some (state.register register)) ∧
      ∀ place : Fin 4096,
        place.val < state.index.toNat ∨ state.index.toNat + x.val < place.val →
        cellAt stored.memory place = cellAt state.memory place) ∧
    (∀ others : Registers,
      let back := { stored with registers := others }.execute load
      back = { stored with registers := back.registers } ∧
      ∀ register, back.register register =
        if register ≤ x then state.register register else cellAt others register) ∧
    loaded = { state with registers := loaded.registers } ∧
    (∀ register, loaded.register register =
      if register ≤ x then state.byteAt (state.index.toNat + register.val)
      else state.register register) ∧
    loaded.execute store = loaded := by
  intro x stored loaded
  have storing : stored = { state with memory := state.stored Edge.last x } :=
    State.execute_store stores inMemory
  have loading (before : State) (sameIndex : before.index = state.index) :
      before.execute load =
        { before with
          registers := State.spliceAt x (before.window Edge.last) before.registers } := by
    have fits : before.index.toNat + (Word.x load).val ≤ 0xFFF := by rwa [sameIndex, same]
    rw [State.execute_load loads fits, same]
  have sameIndex : stored.index = state.index := by rw [storing]
  have sameMemory : stored.memory = state.stored Edge.last x := by rw [storing]
  have taken : loaded = _ := loading state rfl
  refine ⟨⟨?_, ?_, ?_⟩, ?_, ?_, ?_, ?_⟩
  · rw [storing]
  · intro register counts
    rw [sameMemory]
    exact State.getElem?_stored inMemory _ counts
  · intro place outside
    rw [sameMemory, State.cellAt_stored, dif_neg (by omega)]
  · intro others back
    have takenBack : back = _ := loading { stored with registers := others } sameIndex
    rw [takenBack]
    exact ⟨rfl, State.splice_window_of_stored inMemory sameIndex sameMemory others⟩
  · rw [taken]
  · intro register
    rw [taken]
    exact State.cellAt_splice_window_of_inMemory inMemory _ _ register
  · have loadedIndex : loaded.index = state.index := by rw [taken]
    have loadedMemory : loaded.memory = state.memory := by rw [taken]
    have putBack : loaded.stored Edge.last x = loaded.memory :=
      (State.stored_of_loaded loadedIndex loadedMemory (by rw [taken])).trans loadedMemory.symm
    rw [State.execute_store stores (loadedIndex ▸ inMemory), putBack]

/-- A machine with two registers set and `I` at the last byte of memory but one. -/
def Machine.atLastBytes : Machine :=
  (Machine.fresh ⟨0, 0⟩ false).after
    [.load #[0x60, 0xA5, 0x61, 0x5A, 0xAF, 0xFE], .step, .step, .step]

/-- Of the sixteen addresses of the window fourteen lie past memory. -/
theorem stores_loads_inverse_lastBytes :
    let state := Machine.atLastBytes.state
    let stored := state.execute 0xF155
    let others : Registers := Vector.replicate 16 0x77
    let back := { stored with registers := others }.execute 0xF165
    (0xF155 : Int32).toUInt32 &&& 0xF0FF = 0xF055 ∧
    (0xF165 : Int32).toUInt32 &&& 0xF0FF = 0xF065 ∧ Word.x 0xF165 = Word.x 0xF155 ∧
    state.index.toNat = 0xFFE ∧ state.index.toNat + (Word.x 0xF155).val ≤ 0xFFF ∧
    stored.memory[0xFFF]? = some 0x5A ∧ cellAt stored.memory 0xFFD = cellAt state.memory 0xFFD ∧
    back.register 1 = 0x5A ∧ back.register 2 = 0x77 ∧
    (state.execute 0xF165).execute 0xF155 = state.execute 0xF165 := by
  intro state stored others back
  obtain ⟨stores, loads, same, start, inMemory, second⟩ :
      (0xF155 : Int32).toUInt32 &&& 0xF0FF = 0xF055 ∧
      (0xF165 : Int32).toUInt32 &&& 0xF0FF = 0xF065 ∧ Word.x 0xF165 = Word.x 0xF155 ∧
      state.index.toNat = 0xFFE ∧ state.index.toNat + (Word.x 0xF155).val ≤ 0xFFF ∧
      state.register 1 = 0x5A := by
    decide +kernel
  obtain ⟨⟨-, written, outside⟩, loadBack, -, -, putBack⟩ :=
    stores_loads_inverse stores loads same inMemory
  have last := written 1 (by decide)
  have before := outside 0xFFD (.inl (by rw [start]; decide))
  have registers := (loadBack others).2
  rw [start, second] at last
  refine ⟨stores, loads, same, start, inMemory, last, before, ?_, ?_, putBack⟩
  · exact (registers 1).trans ((if_pos (by decide)).trans second)
  · exact (registers 2).trans ((if_neg (by decide)).trans (by decide))

end Chip8
