import Chip8.CallStack

/-!
# Sound call stacks

On a sound stack every open call was made at an address with a whole word behind it, and all words
that no call uses are zero. Pushes on a stack with room and pops of a stack with calls keep it so,
and the word that a pop takes is always one of the sixteen.
-/

namespace Chip8.CallStack

variable {stack : CallStack}

theorem isEmpty_eq_true_iff : stack.isEmpty = true ↔ stack.pointer.toNat = 0 := by
  simp [isEmpty, ← UInt8.toNat_inj]

theorem isFull_eq_true_iff : stack.isFull = true ↔ 16 ≤ stack.pointer.toNat := by
  simp [isFull, UInt8.le_iff_toNat_le]

theorem toNat_popped : stack.popped.toNat = stack.pointer.toNat - 1 := by
  unfold popped
  split
  · next empty => simp [isEmpty_eq_true_iff.mp empty]
  · next busy =>
    rw [isEmpty_eq_true_iff] at busy
    rw [UInt8.toNat_sub_of_le _ _ (UInt8.le_iff_toNat_le.mpr (by simp; omega))]
    rfl

theorem toNat_pointer_push (room : stack.pointer.toNat < 16) (address : UInt16) :
    (stack.push address).pointer.toNat = stack.pointer.toNat + 1 := by
  simp only [push, UInt8.toNat_add, UInt8.reduceToNat]
  omega

theorem cellAt_push (address : UInt16) (depth : Fin 16) :
    cellAt (stack.push address).saved depth =
      if stack.pointer.toNat = depth then address &&& 0xFFF else cellAt stack.saved depth := by
  simp only [cellAt, push, Fin.getElem_fin, Vector.getElem_setIfInBounds]

theorem cellAt_pop (depth : Fin 16) :
    cellAt stack.pop.saved depth =
      if stack.popped.toNat = depth then 0 else cellAt stack.saved depth := by
  simp only [cellAt, pop, Fin.getElem_fin, Vector.getElem_setIfInBounds]

/-- Every open call is at an address with a whole word, and the other words are zero. -/
structure Sound (stack : CallStack) : Prop where
  pointer_le : stack.pointer.toNat ≤ 16
  open_le : ∀ depth : Fin 16, depth.val < stack.pointer.toNat →
    (cellAt stack.saved depth).toNat ≤ 0xFFE
  free_zero : ∀ depth : Fin 16, stack.pointer.toNat ≤ depth.val → cellAt stack.saved depth = 0

theorem sound_empty : empty.Sound where
  pointer_le := by decide
  open_le := by decide
  free_zero := by decide

/-- The mask of a push keeps an address of memory as it is. -/
theorem and_mask_of_le {address : UInt16} (inMemory : address.toNat ≤ 0xFFF) :
    address &&& 0xFFF = address := by
  rw [← UInt16.toNat_inj, UInt16.toNat_and]
  exact (Nat.and_two_pow_sub_one_eq_mod address.toNat 12).trans (Nat.mod_eq_of_lt (by omega))

/-- The stack with an address pushed as it is, with no mask. -/
def pushWhole (stack : CallStack) (address : UInt16) : CallStack :=
  ⟨stack.saved.setIfInBounds stack.pointer.toNat address, stack.pointer + 1⟩

theorem push_eq_pushWhole {address : UInt16} (inMemory : address.toNat ≤ 0xFFF) :
    stack.push address = stack.pushWhole address := by
  rw [push, and_mask_of_le inMemory, pushWhole]

theorem Sound.push (sound : stack.Sound) (room : stack.pointer.toNat < 16) {address : UInt16}
    (wholeWord : address.toNat ≤ 0xFFE) : (stack.push address).Sound where
  pointer_le := by
    rw [toNat_pointer_push room]
    exact room
  open_le depth isOpen := by
    rw [toNat_pointer_push room] at isOpen
    rw [cellAt_push]
    split
    · rwa [and_mask_of_le (by omega)]
    · exact sound.open_le depth (by omega)
  free_zero depth isFree := by
    rw [toNat_pointer_push room] at isFree
    rw [cellAt_push, if_neg (by omega)]
    exact sound.free_zero depth (by omega)

theorem Sound.pop (sound : stack.Sound) : stack.pop.Sound where
  pointer_le := by
    have bound := sound.pointer_le
    simp only [CallStack.pop, toNat_popped]
    omega
  open_le depth isOpen := by
    simp only [CallStack.pop, toNat_popped] at isOpen
    rw [cellAt_pop, if_neg (by rw [toNat_popped]; omega)]
    exact sound.open_le depth (by omega)
  free_zero depth isFree := by
    simp only [CallStack.pop, toNat_popped] at isFree
    rw [cellAt_pop]
    split
    · rfl
    · next apart =>
      rw [toNat_popped] at apart
      exact sound.free_zero depth (by omega)

theorem Sound.popped_lt (sound : stack.Sound) : stack.popped.toNat < 16 := by
  have bound := sound.pointer_le
  rw [toNat_popped]
  omega

/-- What a pop takes lies in the stack, whatever lies behind its end. -/
theorem Sound.top_eq (sound : stack.Sound) (edge : Edge) :
    stack.top edge = cellAt stack.saved ⟨stack.popped.toNat, sound.popped_lt⟩ :=
  readCell_of_lt sound.popped_lt

theorem Sound.top_le (sound : stack.Sound) (edge : Edge) : (stack.top edge).toNat ≤ 0xFFE := by
  rw [sound.top_eq]
  by_cases busy : stack.popped.toNat < stack.pointer.toNat
  · exact sound.open_le _ busy
  · rw [sound.free_zero _ (Nat.not_lt.mp busy)]
    decide

end Chip8.CallStack
