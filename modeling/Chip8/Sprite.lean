import Chip8.Cells

/-!
# Sprites

A sprite is drawn by exclusive or: each of its set bits toggles one cell. It has up to fifteen rows of
eight bits, and its cells are counted through the screen's rows without wrapping, so that a column
past the right edge falls on the next row. A bit past the last cell is off screen and toggles
nothing.
-/

namespace Chip8

/-- A sprite in its place: sixteen bytes, of which the first `height` are its rows, and the column and
row of its first bit. -/
structure Sprite where
  rows : Vector UInt8 16
  height : Fin 16
  left : Nat
  top : Nat
deriving DecidableEq, Repr

namespace Sprite

/-- Whether the sprite has a bit at a row and column; the highest bit of a byte is column zero. -/
def isSet (sprite : Sprite) (row : Fin 16) (column : Fin 8) : Bool :=
  row < sprite.height && (cellAt sprite.rows row).toNat.testBit (7 - column)

/-- The cell that a bit of the sprite falls on. -/
def cell (sprite : Sprite) (row : Fin 16) (column : Fin 8) : Nat :=
  (sprite.left + column) + (sprite.top + row) * 64

/-- The places of a sprite's bits, row by row. A drawing goes through all of them, also through those
of unset bits and of rows past the sprite's height. -/
def lanes : List (Fin 16 × Fin 8) :=
  (List.finRange 16).flatMap fun row => (List.finRange 8).map fun column => (row, column)

/-- What the display shows under a bit, set or not. -/
def under (edge : Edge) (sprite : Sprite) (display : Display) (row : Fin 16) (column : Fin 8) : Bool :=
  readCell display edge.display (sprite.cell row column)

/-- The machine itself looks at the last cell for a bit past it. -/
theorem under_last (sprite : Sprite) (display : Display) (row : Fin 16) (column : Fin 8) :
    sprite.under Edge.last display row column = display[min (sprite.cell row column) 2047] := by
  unfold under readCell
  split
  · next inside =>
    have kept : min (sprite.cell row column) 2047 = sprite.cell row column := by omega
    simp only [kept]
  · next outside =>
    have clamped : min (sprite.cell row column) 2047 = 2047 := by omega
    simp only [clamped, Edge.last]

/-- Where the toggled cell of a bit is written to. That of an unset bit goes behind the last cell, where
the write is dropped. -/
def target (sprite : Sprite) (row : Fin 16) (column : Fin 8) : Nat :=
  if sprite.isSet row column then sprite.cell row column else 2048

/-- Some set bit falls past the last cell. -/
def isOffScreen (sprite : Sprite) : Bool :=
  lanes.any fun (row, column) => sprite.isSet row column && 2048 ≤ sprite.cell row column

/-- Some set bit falls on a cell that is lit. -/
def collides (edge : Edge) (sprite : Sprite) (display : Display) : Bool :=
  lanes.any fun (row, column) => sprite.isSet row column && sprite.under edge display row column

/-- The display with the cells under the sprite toggled. -/
def draw (edge : Edge) (sprite : Sprite) (display : Display) : Display :=
  lanes.foldl
    (fun drawn (row, column) =>
      drawn.setIfInBounds (sprite.target row column) (!sprite.under edge display row column))
    display

end Sprite

end Chip8
