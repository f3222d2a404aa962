import Chip8.Cells
import Chip8.Picture.CellTree

/-!
# Pictures of the display

The display as an image in two colours, every cell a square of `scale` by `scale` pixels. Cells may
also come as a block of numbers; colours come as numbers and must fit in bytes. A picture is an array
of rows; a window shows a surface, which is an array of columns.
-/

namespace Chip8

/-! ## Colours -/

/-- A colour as a host gives it: red, green and blue. -/
structure Tint where
  red : Int
  green : Int
  blue : Int
deriving DecidableEq, Repr

/-- The colour of a pixel. -/
structure Colour where
  red : UInt8
  green : UInt8
  blue : UInt8
deriving DecidableEq, Repr

/-- The colours of lit and of dark cells. -/
structure Palette where
  on : Tint
  off : Tint
deriving DecidableEq, Repr

/-! ## Images -/

/-- Why a picture cannot be made. -/
inductive PictureError where
  | badScale (scale : Int)
  | unevenCells (why : CellTree.Unevenness)
  | badCount (count : Nat)
  | badComponent (value : Int)
deriving DecidableEq, Repr

def PictureError.message : PictureError → String
  | .badScale scale => "Scale must be a positive integer, got " ++ toString scale
  | .unevenCells why => why.message
  | .badCount count => "Expected 2048 display cells, got " ++ toString count
  | .badComponent value => "Color component " ++ toString value ++ " is outside 0..255"

/-- Rows of pixels, the topmost first. -/
structure Picture where
  width : Nat
  height : Nat
  rows : Vector (Vector Colour width) height

/-- A component as a byte. -/
def componentByte (value : Int) : Except PictureError UInt8 :=
  if 0 ≤ value ∧ value < 256 then .ok (UInt8.ofNat value.toNat) else .error (.badComponent value)

/-- A colour whose components fit in bytes; the first that does not is reported. -/
def Tint.colour (tint : Tint) : Except PictureError Colour := do
  return ⟨← componentByte tint.red, ← componentByte tint.green, ← componentByte tint.blue⟩

namespace Picture

/-- The display with one pixel for each cell. -/
def plain (on off : Colour) (display : Display) : Vector (Vector Colour 64) 32 :=
  Vector.ofFn fun row => Vector.ofFn fun column =>
    if display[64 * row.val + column.val] then on else off

/-- Every pixel repeated along its row, and every row repeated. -/
def enlarge (scale : Nat) {width height : Nat} (rows : Vector (Vector Colour width) height) :
    Vector (Vector Colour (width * scale)) (height * scale) :=
  (rows.map fun row => row.flatMap (Vector.replicate scale)).flatMap (Vector.replicate scale)

/-- The display at a scale. -/
def paint (scale : Nat) (on off : Colour) (display : Display) : Picture :=
  ⟨64 * scale, 32 * scale, enlarge scale (plain on off display)⟩

/-- The picture of a list of cells. The scale is checked first, then the number of cells, then the dark
colour and the lit one. -/
def render (cells : List Bool) (scale : Int) (palette : Palette) : Except PictureError Picture := do
  if scale < 1 then throw (.badScale scale)
  if counted : cells.length = 2048 then
    let off ← palette.off.colour
    let on ← palette.on.colour
    return paint scale.toNat on off ⟨cells.toArray, counted⟩
  else throw (.badCount cells.length)

/-- The picture of cells in groups. The scale is checked before the cells are looked at. -/
def renderTree (tree : CellTree) (scale : Int) (palette : Palette) : Except PictureError Picture := do
  if scale < 1 then throw (.badScale scale)
  match tree.cells with
  | .ok cells => render cells scale palette
  | .error why => throw (.unevenCells why)

/-- The picture with rows and columns exchanged. -/
def swapAxes (picture : Picture) : Picture :=
  ⟨picture.height, picture.width,
    Vector.ofFn fun column => Vector.ofFn fun row => picture.rows[row][column]⟩

end Picture

/-! ## Surfaces -/

/-- What a window shows: columns of pixels, the leftmost first. -/
structure Surface where
  width : Nat
  height : Nat
  columns : Vector (Vector Colour height) width

/-- The surface of an array: its first index counts the columns, its second one the pixels in them. -/
def Surface.ofArray (array : Picture) : Surface :=
  ⟨array.height, array.width, array.rows⟩

end Chip8
