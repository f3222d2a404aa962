import Chip8.Perform
import Mathlib.Data.List.Basic

/-!
# The cells of a sprite

The cells under a sprite are those of its set bits, and only the rows that the sprite has count. A
sprite that is on the screen as a whole never looks past the display.
-/

namespace Chip8

namespace Sprite

variable {sprite : Sprite}

/-- The cells under the set bits, row by row. -/
def cells (sprite : Sprite) : List Nat :=
  lanes.filterMap fun (row, column) =>
    if sprite.isSet row column then some (sprite.cell row column) else none

theorem mem_lanes (row : Fin 16) (column : Fin 8) : (row, column) ∈ lanes := by
  simp [lanes]

theorem mem_cells {cell : Nat} :
    cell ∈ sprite.cells ↔
      ∃ row column, sprite.isSet row column = true ∧ sprite.cell row column = cell := by
  simp [cells, mem_lanes]

/-! ## What a drawing looks at

A drawing reads the display under every bit and throws away what it has read under the unset ones.
The rules below go through the set bits only, whatever lies past the display. -/

/-- What some set bit falls on is what some cell of the sprite shows. -/
theorem any_lanes (shown : Nat → Bool) :
    (lanes.any fun (row, column) => sprite.isSet row column && shown (sprite.cell row column)) =
      sprite.cells.any shown := by
  rw [cells, List.any_filterMap]
  refine congrArg lanes.any (funext fun (row, column) => ?_)
  cases isSet : sprite.isSet row column <;> simp [isSet]

theorem isOffScreen_eq_any_cells : sprite.isOffScreen = sprite.cells.any (2048 ≤ ·) :=
  any_lanes (2048 ≤ ·)

theorem collides_eq_any_cells (edge : Edge) (display : Display) :
    sprite.collides edge display = sprite.cells.any (readCell display edge.display) :=
  any_lanes (readCell display edge.display)

theorem setIfInBounds_target (edge : Edge) (display drawn : Display) (row : Fin 16) (column : Fin 8) :
    drawn.setIfInBounds (sprite.target row column) (!sprite.under edge display row column) =
      if sprite.isSet row column then
        drawn.setIfInBounds (sprite.cell row column)
          (!readCell display edge.display (sprite.cell row column))
      else drawn := by
  unfold target under
  split
  · rfl
  · exact Vector.setIfInBounds_eq_of_size_le (Nat.le_refl 2048)

theorem draw_eq_foldl_cells (edge : Edge) (display : Display) :
    sprite.draw edge display =
      sprite.cells.foldl
        (fun drawn cell => drawn.setIfInBounds cell (!readCell display edge.display cell))
        display := by
  rw [draw, cells, List.foldl_filterMap]
  refine List.foldl_ext _ _ _ fun drawn (row, column) _ => ?_
  simp only [setIfInBounds_target]
  split <;> rfl

theorem isOffScreen_iff :
    sprite.isOffScreen = true ↔
      ∃ row column, sprite.isSet row column = true ∧ 2047 < sprite.cell row column := by
  simp only [isOffScreen, List.any_eq_true, Prod.exists, mem_lanes, true_and, Bool.and_eq_true,
    decide_eq_true_eq]
  exact Iff.rfl

theorem lt_of_mem_cells (onScreen : sprite.isOffScreen = false) {cell : Nat}
    (covered : cell ∈ sprite.cells) : cell < 2048 := by
  rw [isOffScreen_eq_any_cells, List.any_eq_false] at onScreen
  simpa using onScreen cell covered

theorem isOffScreen_congr {one other : Sprite} (same : one.cells = other.cells) :
    one.isOffScreen = other.isOffScreen := by
  rw [isOffScreen_eq_any_cells, isOffScreen_eq_any_cells, same]

/-- On the screen a drawing is that of the cells, whatever lies past the display. -/
theorem draw_eq_of_onScreen {one other : Sprite} (same : one.cells = other.cells)
    (onScreen : one.isOffScreen = false) (oneEdge otherEdge : Edge) (display : Display) :
    one.draw oneEdge display = other.draw otherEdge display := by
  rw [draw_eq_foldl_cells, draw_eq_foldl_cells, ← same]
  apply List.foldl_ext
  intro drawn cell covered
  have inside := lt_of_mem_cells onScreen covered
  rw [readCell_of_lt inside, readCell_of_lt inside]

theorem collides_eq_of_onScreen {one other : Sprite} (same : one.cells = other.cells)
    (onScreen : one.isOffScreen = false) (oneEdge otherEdge : Edge) (display : Display) :
    one.collides oneEdge display = other.collides otherEdge display := by
  rw [collides_eq_any_cells, collides_eq_any_cells, ← same, Bool.eq_iff_iff, List.any_eq_true,
    List.any_eq_true]
  refine exists_congr fun cell => and_congr_right fun covered => ?_
  have inside := lt_of_mem_cells onScreen covered
  rw [readCell_of_lt inside, readCell_of_lt inside]

/-- Rows past the height of a sprite have no part in its cells. -/
theorem cells_congr {one other : Sprite} (height : one.height = other.height)
    (left : one.left = other.left) (top : one.top = other.top)
    (rows : ∀ row < one.height, cellAt one.rows row = cellAt other.rows row) :
    one.cells = other.cells := by
  have isSet (row : Fin 16) (column : Fin 8) : one.isSet row column = other.isSet row column := by
    unfold Sprite.isSet
    by_cases counts : row < one.height
    · rw [rows row counts, height]
    · simp [counts, ← height]
  have cell (row : Fin 16) (column : Fin 8) : one.cell row column = other.cell row column := by
    rw [Sprite.cell, Sprite.cell, left, top]
  unfold cells
  simp only [isSet, cell]

end Sprite

namespace State

variable {state : State} {x y height : Fin 16}

theorem cellAt_sprite_rows (edge : Edge) (row : Fin 16) :
    cellAt (state.sprite edge x y height).rows row =
      state.readMemory edge (state.index.toNat + row) :=
  cellAt_ofFn _ row

/-- A sprite whose rows all lie in memory covers the same cells, whatever lies past memory. -/
theorem sprite_cells_eq (inMemory : ∀ row < height, state.index.toNat + row.val < 4096)
    (edge other : Edge) :
    (state.sprite edge x y height).cells = (state.sprite other x y height).cells := by
  refine Sprite.cells_congr rfl rfl rfl fun row counts => ?_
  have inside := inMemory row counts
  rw [cellAt_sprite_rows, cellAt_sprite_rows, readMemory, readMemory, readCell_of_lt inside,
    readCell_of_lt inside]

end State

end Chip8
