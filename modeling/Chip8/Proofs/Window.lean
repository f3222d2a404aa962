import Chip8.Perform

/-!
# Registers to memory and back

A store goes through all sixteen addresses from `I`, and a load reads all sixteen, also where they
run past memory. What counts are the addresses up to the one of `VX`: a store changes no other byte,
and a load of addresses in memory takes nothing from past its end.
-/

namespace Chip8

theorem getElem?_toList {α : Type} {size : Nat} (cells : Vector α size) {place : Nat}
    (inside : place < size) : cells.toList[place]? = some (cellAt cells ⟨place, inside⟩) := by
  simp [cellAt, inside]

namespace State

variable {state : State}

theorem cellAt_spliceAt (x : Fin 16) (first rest : Registers) (place : Fin 16) :
    cellAt (spliceAt x first rest) place =
      if place ≤ x then cellAt first place else cellAt rest place :=
  cellAt_ofFn _ place

theorem cellAt_window (edge : Edge) (place : Fin 16) :
    cellAt (state.window edge) place = state.readMemory edge (state.index.toNat + place) :=
  cellAt_ofFn _ place

/-- What a store leaves in memory. -/
def stored (state : State) (edge : Edge) (x : Fin 16) : Memory :=
  state.memory.write state.index.toNat (spliceAt x state.registers (state.window edge)).toList

/-- Behind `VX` a store writes what it read, so that a byte in memory stays. -/
theorem cellAt_splice_window (edge : Edge) (x : Fin 16) {offset : Fin 16} {place : Fin 4096}
    (here : place.val = state.index.toNat + offset.val) :
    cellAt (spliceAt x state.registers (state.window edge)) offset =
      if offset ≤ x then cellAt state.registers offset else cellAt state.memory place := by
  rw [cellAt_spliceAt, cellAt_window, readMemory, ← here, readCell_of_lt place.isLt]
  rfl

/-- A store writes the registers up to `VX` and changes no other byte. -/
theorem cellAt_stored (edge : Edge) (x : Fin 16) (place : Fin 4096) :
    cellAt (state.stored edge x) place =
      if inside : state.index.toNat ≤ place.val ∧ place.val ≤ state.index.toNat + x.val then
        cellAt state.registers ⟨place.val - state.index.toNat, by omega⟩
      else cellAt state.memory place := by
  rw [stored, cellAt_write]
  by_cases reached : state.index.toNat ≤ place.val
  · rw [if_pos reached]
    by_cases inWindow : place.val - state.index.toNat < 16
    · have here : place.val = state.index.toNat + (place.val - state.index.toNat) := by omega
      rw [getElem?_toList _ inWindow, Option.getD_some, cellAt_splice_window edge x here]
      by_cases counts : place.val ≤ state.index.toNat + x.val
      · rw [if_pos (Fin.le_def.mpr (by simp; omega)), dif_pos ⟨reached, counts⟩]
      · rw [if_neg (mt Fin.le_def.mp (by simp; omega)), dif_neg (by omega)]
    · -- Behind the sixteen addresses nothing is written.
      rw [List.getElem?_eq_none (by simp; omega), Option.getD_none, dif_neg (by omega)]
  · rw [if_neg reached, dif_neg (by omega)]

/-- What a store leaves in memory does not depend on what lies past its end. -/
theorem stored_eq (edge other : Edge) (x : Fin 16) : state.stored edge x = state.stored other x :=
  cells_ext fun place => by rw [cellAt_stored, cellAt_stored]

/-- A load of addresses in memory does not depend on what lies past its end. -/
theorem splice_window_eq {x : Fin 16} (inMemory : state.index.toNat + x.val ≤ 0xFFF)
    (edge other : Edge) :
    spliceAt x (state.window edge) state.registers =
      spliceAt x (state.window other) state.registers := by
  refine cells_ext fun place => ?_
  rw [cellAt_spliceAt, cellAt_spliceAt, cellAt_window, cellAt_window]
  by_cases counts : place ≤ x
  · have inside : state.index.toNat + place.val < 4096 := by
      have bound := Fin.le_def.mp counts
      omega
    rw [readMemory, readMemory, readCell_of_lt inside, readCell_of_lt inside]
  · rw [if_neg counts, if_neg counts]

end State

end Chip8
