import Chip8.Proofs.FaultCondition

/-!
# Drawing as exclusive or

A sprite that is drawn toggles the cells under its set bits and leaves all others, and `VF` tells
whether one of the toggled cells was lit. Each cell lies under at most one bit, so that nothing is
toggled twice, and a bit behind the right edge of the screen lies under a cell of the row below.

Results:
1. `Sprite.cellAt_draw`, `Sprite.collides_iff`: a drawing and its collision, cell by cell.
2. `covers_iff_mem_cells`, `eq_of_bitCell_eq`: the cells under the bits of a sprite in memory.
3. `draw_of_passed`: all that a draw changes when its checks pass.
4. `draw_toggles_cells`: the whole rule for a word that draws.
-/

namespace Chip8

namespace Sprite

variable {sprite : Sprite} {edge : Edge} {display : Display}

theorem cellAt_setIfInBounds (drawn : Display) (cell : Nat) (lit : Bool) (place : Fin 2048) :
    cellAt (drawn.setIfInBounds cell lit) place =
      if cell = place then lit else cellAt drawn place := by
  simp [cellAt, Vector.getElem_setIfInBounds]

/-- Toggling reads the display as it was before the drawing, so that the order of the cells has no
part in the outcome. -/
theorem cellAt_foldl_toggle (cells : List Nat) (drawn : Display) (place : Fin 2048) :
    cellAt (cells.foldl
        (fun drawn cell => drawn.setIfInBounds cell (!readCell display edge.display cell)) drawn)
        place =
      if place.val ∈ cells then !cellAt display place else cellAt drawn place := by
  induction cells generalizing drawn with
  | nil => simp
  | cons cell rest ih =>
    rw [List.foldl_cons, ih, cellAt_setIfInBounds]
    by_cases later : place.val ∈ rest
    · simp [later]
    · by_cases here : cell = place.val
      · subst here
        simp [readCell_of_lt place.isLt, cellAt]
      · simp [later, here, Ne.symm here]

/-- A drawing toggles exactly the cells under the sprite. -/
theorem cellAt_draw (place : Fin 2048) :
    cellAt (sprite.draw edge display) place =
      (cellAt display place ^^ decide (place.val ∈ sprite.cells)) := by
  rw [draw_eq_foldl_cells, cellAt_foldl_toggle]
  by_cases covered : place.val ∈ sprite.cells <;> simp [covered]

/-- A sprite on the screen collides exactly if a cell under it is lit. -/
theorem collides_iff (onScreen : sprite.isOffScreen = false) :
    sprite.collides edge display = true ↔
      ∃ place : Fin 2048, place.val ∈ sprite.cells ∧ cellAt display place = true := by
  rw [collides_eq_any_cells, List.any_eq_true]
  constructor
  · rintro ⟨cell, covered, lit⟩
    have inside := lt_of_mem_cells onScreen covered
    rw [readCell_of_lt inside] at lit
    exact ⟨⟨cell, inside⟩, covered, lit⟩
  · rintro ⟨place, covered, lit⟩
    refine ⟨place, covered, ?_⟩
    rw [readCell_of_lt place.isLt]
    exact lit

end Sprite

namespace State

variable {state : State} {x y height : Fin 16}

/-! ## The bits of a sprite in memory -/

/-- Whether a bit of the bytes from `I` on is set; the highest bit of a byte is the first of its
row. -/
def bitSet (state : State) (row column : Nat) : Bool :=
  (state.byteAt (state.index.toNat + row)).toNat.testBit (7 - column)

/-- The cell under a bit of the sprite at `(VX, VY)`, counted through the rows of the screen. -/
def bitCell (state : State) (x y : Fin 16) (row column : Nat) : Nat :=
  (state.register x).toNat + column + ((state.register y).toNat + row) * 64

/-- The cell lies under a set bit of the sprite. -/
def Covers (state : State) (x y height : Fin 16) (cell : Nat) : Prop :=
  ∃ row < height.val, ∃ column < 8,
    state.bitSet row column = true ∧ state.bitCell x y row column = cell

instance (cell : Nat) : Decidable (state.Covers x y height cell) :=
  inferInstanceAs (Decidable (∃ row < height.val, ∃ column < 8, _ ∧ _))

/-- No two bits of a sprite lie on one cell. -/
theorem eq_of_bitCell_eq {row column row' column' : Nat}
    (narrow : column < 8) (narrow' : column' < 8)
    (same : state.bitCell x y row column = state.bitCell x y row' column') :
    row = row' ∧ column = column' := by
  unfold bitCell at same
  omega

/-- The cells under a sprite in memory are those of its set bits. -/
theorem covers_iff_mem_cells (edge : Edge)
    (inMemory : ∀ row < height.val, state.index.toNat + row ≤ 0xFFF) (cell : Nat) :
    state.Covers x y height cell ↔ cell ∈ (state.sprite edge x y height).cells := by
  rw [Sprite.mem_cells]
  constructor
  · rintro ⟨row, counts, column, narrow, isSet, here⟩
    refine ⟨⟨row, by omega⟩, ⟨column, narrow⟩, ?_, here⟩
    exact (isSet_sprite_iff edge inMemory).mpr ⟨counts, isSet⟩
  · rintro ⟨row, column, isSet, here⟩
    obtain ⟨counts, isSet⟩ := (isSet_sprite_iff edge inMemory).mp isSet
    exact ⟨row, counts, column, column.isLt, isSet, here⟩

/-! ## Drawing -/

/-- A draw that passes its checks changes the display, the mark on it and `VF`. -/
theorem draw_of_passed {edge : Edge} (passed : state.hazard? edge (.draw x y height) = none) :
    state.draw edge x y height =
      { state with
        display := (state.sprite edge x y height).draw edge state.display
        dirty := true
        registers := putCell state.registers Registers.flag
          (if (state.sprite edge x y height).collides edge state.display then 1 else 0) } := by
  obtain ⟨inMemory, onScreen⟩ := hazard?_draw_eq_none_iff.mp passed
  have whole := mt (spritePastMemory_iff height).mp (not_not.mpr inMemory)
  simp only [draw, setFlag, setRegister, latch, whole, onScreen, decide_false, Bool.false_and,
    Bool.false_eq_true, if_false]

/-- The display after a draw that passes its checks, cell by cell. -/
theorem cellAt_draw_of_passed {edge : Edge}
    (passed : state.hazard? edge (.draw x y height) = none) (place : Fin 2048) :
    cellAt (state.draw edge x y height).display place =
      (cellAt state.display place ^^ decide (state.Covers x y height place)) := by
  obtain ⟨inMemory, -⟩ := hazard?_draw_eq_none_iff.mp passed
  rw [draw_of_passed passed]
  simp only [Sprite.cellAt_draw, covers_iff_mem_cells edge inMemory]

/-- The registers after a draw that passes its checks. -/
theorem registers_draw_of_passed {edge : Edge}
    (passed : state.hazard? edge (.draw x y height) = none) :
    (state.draw edge x y height).registers =
      putCell state.registers Registers.flag
        (if ∃ place : Fin 2048, state.Covers x y height place ∧ cellAt state.display place = true
          then 1 else 0) := by
  obtain ⟨inMemory, onScreen⟩ := hazard?_draw_eq_none_iff.mp passed
  rw [draw_of_passed passed]
  simp only [Sprite.collides_iff onScreen, covers_iff_mem_cells edge inMemory]

/-- A set bit of a sprite that passes its checks lies on the screen, and drawing toggles its
cell. -/
theorem toggled_of_bitSet {edge : Edge} (passed : state.hazard? edge (.draw x y height) = none)
    {row column : Nat} (counts : row < height.val) (narrow : column < 8)
    (isSet : state.bitSet row column = true) :
    ∃ place : Fin 2048, place.val = state.bitCell x y row column ∧
      cellAt (state.draw edge x y height).display place = !cellAt state.display place := by
  obtain ⟨inMemory, onScreen⟩ := hazard?_draw_eq_none_iff.mp passed
  have covered : state.Covers x y height (state.bitCell x y row column) :=
    ⟨row, counts, column, narrow, isSet, rfl⟩
  have onDisplay :=
    Sprite.lt_of_mem_cells onScreen ((covers_iff_mem_cells edge inMemory _).mp covered)
  refine ⟨⟨_, onDisplay⟩, rfl, ?_⟩
  rw [cellAt_draw_of_passed passed, decide_eq_true covered, Bool.xor_true]

/-- A sprite with no rows lies over no cell and collides with none. -/
theorem draw_of_noRows {edge : Edge} (passed : state.hazard? edge (.draw x y 0) = none) :
    state.draw edge x y 0 =
      { state with
        dirty := true
        registers := putCell state.registers Registers.flag 0 } := by
  have uncovered (cell : Nat) : ¬ state.Covers x y 0 cell := by
    rintro ⟨row, counts, -⟩
    exact absurd counts (Nat.not_lt_zero row)
  have sameDisplay : (state.draw edge x y 0).display = state.display :=
    cells_ext fun place => by
      rw [cellAt_draw_of_passed passed, decide_eq_false (uncovered place), Bool.xor_false]
  have cleared := registers_draw_of_passed passed
  simp only [uncovered, false_and, exists_false, if_false] at cleared
  rw [← cleared, ← sameDisplay, draw_of_passed passed]

/-- The instruction of a word that draws. -/
theorem decode_of_draw {word : Int32} (draws : word.toUInt32 &&& 0xF000 = 0xD000) :
    Instruction.decode word = .draw (Word.x word) (Word.y word) (Word.n word) := by
  have kind : classify word = .draw := classify_of_digits ⟨0xF000, 0xD000, .draw⟩ (by decide) draws
  rw [Instruction.decode, kind]

end State

/-- Drawing is exclusive or. Take a word that draws and a state on which it records no fault. Each
cell of the display is toggled if it lies under a set bit of the sprite, and kept otherwise, and it
lies under at most one bit. `VF` tells whether a lit cell was toggled, also if it gave the place of
the sprite, the display is marked as written, and nothing else changes. A bit behind the right edge
of the screen toggles a cell of the next row, and a sprite with no rows changes `VF` and the mark
only. -/
theorem draw_toggles_cells {state : State} {word : Int32} (healthy : state.fault = Fault.healthy)
    (draws : word.toUInt32 &&& 0xF000 = 0xD000)
    (kept : (state.execute word).fault = Fault.healthy) :
    let x := Word.x word
    let y := Word.y word
    let height := Word.n word
    let after := state.execute word
    (∀ place : Fin 2048,
      cellAt after.display place =
        (cellAt state.display place ^^ decide (state.Covers x y height place)) ∧
      ∀ row row' column column', column < 8 → column' < 8 →
        state.bitCell x y row column = place → state.bitCell x y row' column' = place →
        row = row' ∧ column = column') ∧
    after =
      { state with
        display := after.display
        dirty := true
        registers := putCell state.registers Registers.flag
          (if ∃ place : Fin 2048,
            state.Covers x y height place ∧ cellAt state.display place = true then 1 else 0) } ∧
    (∀ row column, row < height.val → column < 8 → state.bitSet row column = true →
      64 ≤ (state.register x).toNat + column →
      ∃ place : Fin 2048,
        place.val = ((state.register x).toNat + column - 64) +
          ((state.register y).toNat + row + 1) * 64 ∧
        cellAt after.display place = !cellAt state.display place) ∧
    (height = 0 →
      after =
        { state with
          dirty := true
          registers := putCell state.registers Registers.flag 0 }) := by
  intro x y height after
  have drawn : after = state.draw Edge.last x y height :=
    congrArg (state.performWith Edge.last) (State.decode_of_draw draws)
  have passed : state.hazard? Edge.last (.draw x y height) = none := by
    rw [← Fault.codeOf_eq_healthy_iff, ← State.performWith_fault _ _ healthy]
    exact (congrArg State.fault drawn).symm.trans kept
  rw [drawn]
  refine ⟨fun place => ⟨State.cellAt_draw_of_passed passed place,
    fun row row' column column' narrow narrow' here here' =>
      State.eq_of_bitCell_eq narrow narrow' (here.trans here'.symm)⟩, ?_, ?_, ?_⟩
  · rw [← State.registers_draw_of_passed passed, State.draw_of_passed passed]
  · intro row column counts narrow isSet behind
    obtain ⟨place, here, toggled⟩ := State.toggled_of_bitSet passed counts narrow isSet
    refine ⟨place, ?_, toggled⟩
    rw [here, State.bitCell]
    omega
  · intro noRows
    rw [noRows] at passed ⊢
    exact State.draw_of_noRows passed

/-- A machine that has drawn a glyph across the right edge and will draw it again one row below,
where `VF` has its column. -/
def Machine.drawingAcross : Machine :=
  (Machine.fresh ⟨0, 0⟩ false).after
    [.load #[0x6F, 0x3E, 0x61, 0x03, 0xDF, 0x15, 0x6F, 0x3E, 0x61, 0x04],
      .step, .step, .step, .step, .step]

/-- The glyphs overlap, so that a cell past the edge goes dark and `VF` gives way to the flag. -/
theorem draw_toggles_cells_across :
    let state := Machine.drawingAcross.state
    let after := state.execute 0xDF15
    state.fault = Fault.healthy ∧
    (0xDF15 : Int32).toUInt32 &&& 0xF000 = 0xD000 ∧ (0xDF10 : Int32).toUInt32 &&& 0xF000 = 0xD000 ∧
    after.fault = Fault.healthy ∧ (state.execute 0xDF10).fault = Fault.healthy ∧
    Word.x 0xDF15 = Registers.flag ∧ (state.register (Word.x 0xDF15)).toNat = 62 ∧
    cellAt state.display 321 = true ∧ cellAt after.display 321 = false ∧
    after.registers = putCell state.registers Registers.flag 1 ∧ after.dirty = true ∧
    state.execute 0xDF10 =
      { state with dirty := true, registers := putCell state.registers Registers.flag 0 } := by
  intro state after
  obtain ⟨healthy, draws, drawsNone, kept, keptNone, column, row, lit, isSet⟩ :
      state.fault = Fault.healthy ∧
      (0xDF15 : Int32).toUInt32 &&& 0xF000 = 0xD000 ∧
      (0xDF10 : Int32).toUInt32 &&& 0xF000 = 0xD000 ∧
      after.fault = Fault.healthy ∧ (state.execute 0xDF10).fault = Fault.healthy ∧
      (state.register (Word.x 0xDF15)).toNat = 62 ∧ (state.register (Word.y 0xDF15)).toNat = 4 ∧
      cellAt state.display 321 = true ∧ state.bitSet 0 3 = true := by
    decide +kernel
  obtain ⟨-, unchanged, edge, -⟩ := draw_toggles_cells healthy draws kept
  obtain ⟨-, -, -, nothing⟩ := draw_toggles_cells healthy drawsNone keptNone
  have covered : state.Covers (Word.x 0xDF15) (Word.y 0xDF15) (Word.n 0xDF15) (321 : Fin 2048) := by
    refine ⟨0, by decide, 3, by decide, isSet, ?_⟩
    rw [State.bitCell, column, row]
    rfl
  rw [if_pos ⟨321, covered, lit⟩] at unchanged
  simp only [column, row] at edge
  obtain ⟨place, here, toggled⟩ := edge 0 3 (by decide) (by decide) isSet (by decide)
  obtain rfl : place = 321 := Fin.ext here
  rw [lit] at toggled
  have registers := congrArg State.registers unchanged
  have marked := congrArg State.dirty unchanged
  exact ⟨healthy, draws, drawsNone, kept, keptNone, by decide, column, lit, toggled, registers,
    marked, nothing (by decide)⟩

end Chip8
