import Chip8.Palette

/-!
# What a picture shows

A picture of the display is made at any scale from one on, in any two colours whose components fit in
bytes. Each of its pixels has the colour of the cell that it lies in. A surface takes the picture with its
axes exchanged, and shows it as it is.

Results:
1. `Tint.colour_of_fits`, `Palette.fits_of_ofName?`: colours that fit, among them all that have names.
2. `getElem_enlarge`: an enlarged row or column is the one that lies under it.
3. `depicts_paint`, `render_of_fits`: a picture is made, and it shows the display.
4. `Surface.pixel?_ofArray_swapAxes`: a surface shows the same pixels as the picture it is made of.
-/

namespace Chip8

/-! ## Colours -/

/-- The numbers of a colour. -/
def Colour.tint (colour : Colour) : Tint :=
  ⟨colour.red.toNat, colour.green.toNat, colour.blue.toNat⟩

/-- The components fit in bytes. -/
structure Tint.Fits (tint : Tint) : Prop where
  red : 0 ≤ tint.red ∧ tint.red < 256
  green : 0 ≤ tint.green ∧ tint.green < 256
  blue : 0 ≤ tint.blue ∧ tint.blue < 256

structure Palette.Fits (palette : Palette) : Prop where
  on : palette.on.Fits
  off : palette.off.Fits

theorem componentByte_of_fits {value : Int} (fits : 0 ≤ value ∧ value < 256) :
    ∃ byte, componentByte value = .ok byte ∧ (byte.toNat : Int) = value := by
  refine ⟨UInt8.ofNat value.toNat, if_pos fits, ?_⟩
  rw [UInt8.toNat_ofNat']
  omega

/-- A colour that fits in bytes is kept as it is. -/
theorem Tint.colour_of_fits {tint : Tint} (fits : tint.Fits) :
    ∃ colour, tint.colour = .ok colour ∧ colour.tint = tint := by
  obtain ⟨red, redByte, sameRed⟩ := componentByte_of_fits fits.red
  obtain ⟨green, greenByte, sameGreen⟩ := componentByte_of_fits fits.green
  obtain ⟨blue, blueByte, sameBlue⟩ := componentByte_of_fits fits.blue
  refine ⟨⟨red, green, blue⟩, ?_, ?_⟩
  · rw [Tint.colour, redByte, greenByte, blueByte]
    rfl
  · rw [Colour.tint, sameRed, sameGreen, sameBlue]

instance (tint : Tint) : Decidable tint.Fits :=
  decidable_of_iff
    ((0 ≤ tint.red ∧ tint.red < 256) ∧ (0 ≤ tint.green ∧ tint.green < 256) ∧
      (0 ≤ tint.blue ∧ tint.blue < 256))
    ⟨fun ⟨red, green, blue⟩ => ⟨red, green, blue⟩, fun ⟨red, green, blue⟩ => ⟨red, green, blue⟩⟩

/-- The colours that have names fit in bytes. -/
theorem Palette.fits_of_ofName? {name : String} {palette : Palette}
    (named : Palette.ofName? name = some palette) : palette.Fits := by
  have allFit : ∀ entry ∈ Palette.named, entry.2.on.Fits ∧ entry.2.off.Fits := by decide
  obtain ⟨before, rest, split, -⟩ := List.lookup_eq_some_iff.mp named
  have member : (name, palette) ∈ Palette.named := by simp [split]
  obtain ⟨on, off⟩ := allFit _ member
  exact ⟨on, off⟩

/-! ## Pixels -/

/-- Pixels show a display: they have the display's size at the scale, and each has the lit colour if the
cell that it lies in is set, and the dark one otherwise. -/
structure Depiction (width height : Nat) (pixel? : Nat → Nat → Option Colour) (display : Display)
    (scale : Nat) (palette : Palette) : Prop where
  width : width = 64 * scale
  height : height = 32 * scale
  pixel : ∀ column row, column < 64 * scale → row < 32 * scale →
    (pixel? column row).map Colour.tint =
      some (if display[row / scale * 64 + column / scale]? = some true then palette.on
        else palette.off)

namespace Picture

/-- The pixel in a column and a row, counted from the top left corner. -/
def pixel? (picture : Picture) (column row : Nat) : Option Colour :=
  picture.rows[row]?.bind fun pixels => pixels[column]?

/-- The place on an edge of which a place on the enlarged edge is a part. -/
theorem place_lt {size scale place : Nat} (inside : place < size * scale) : place / scale < size :=
  Nat.div_lt_of_lt_mul (by rwa [Nat.mul_comm])

theorem getElem_enlarge {scale width height : Nat} (rows : Vector (Vector Colour width) height)
    {column row : Nat} (inRow : column < width * scale) (inColumn : row < height * scale) :
    (enlarge scale rows)[row][column] =
      cellAt (cellAt rows ⟨row / scale, place_lt inColumn⟩) ⟨column / scale, place_lt inRow⟩ := by
  simp [enlarge, Vector.getElem_flatMap, cellAt]

/-- A picture shows a display. -/
abbrev Depicts (picture : Picture) : Display → Nat → Palette → Prop :=
  Depiction picture.width picture.height picture.pixel?

theorem depicts_paint {on off : Colour} {palette : Palette} (lit : on.tint = palette.on)
    (dark : off.tint = palette.off) (display : Display) (scale : Nat) :
    (paint scale on off display).Depicts display scale palette := by
  refine ⟨rfl, rfl, fun column row inRow inColumn => ?_⟩
  have columnInside := place_lt inRow
  have rowInside := place_lt inColumn
  have cellInside : 64 * (row / scale) + column / scale < 2048 := by omega
  have pixel : (paint scale on off display).pixel? column row =
      some (if display[64 * (row / scale) + column / scale] then on else off) := by
    rw [paint, pixel?, Vector.getElem?_eq_getElem inColumn, Option.bind_some,
      Vector.getElem?_eq_getElem inRow, getElem_enlarge _ inRow inColumn]
    simp [plain, cellAt]
  rw [pixel, Nat.mul_comm (row / scale), Vector.getElem?_eq_getElem cellInside]
  cases display[64 * (row / scale) + column / scale] <;> simp [lit, dark]

/-- The display is rendered at any scale in colours that fit. -/
theorem render_of_fits {palette : Palette} (fits : palette.Fits) (display : Display) {scale : Int}
    (positive : 1 ≤ scale) :
    ∃ picture, render display.toList scale palette = .ok picture ∧
      picture.Depicts display scale.toNat palette := by
  obtain ⟨on, onColour, lit⟩ := Tint.colour_of_fits fits.on
  obtain ⟨off, offColour, dark⟩ := Tint.colour_of_fits fits.off
  refine ⟨paint scale.toNat on off display, ?_, depicts_paint lit dark display scale.toNat⟩
  have counted : display.toList.length = 2048 := display.length_toList
  rw [render, if_neg (Int.not_lt.mpr positive), dif_pos counted, onColour, offColour]
  rfl

end Picture

/-! ## Surfaces -/

namespace Surface

/-- The pixel in a column and a row, counted from the top left corner. -/
def pixel? (surface : Surface) (column row : Nat) : Option Colour :=
  surface.columns[column]?.bind fun pixels => pixels[row]?

/-- A surface shows a display. -/
abbrev Depicts (surface : Surface) : Display → Nat → Palette → Prop :=
  Depiction surface.width surface.height surface.pixel?

/-- The surface of a picture with its axes exchanged shows the picture as it is. -/
theorem pixel?_ofArray_swapAxes (picture : Picture) (column row : Nat) :
    (ofArray picture.swapAxes).pixel? column row = picture.pixel? column row := by
  unfold pixel? Picture.pixel? ofArray Picture.swapAxes
  by_cases inRow : column < picture.width
  · by_cases inColumn : row < picture.height <;> simp [inRow, inColumn]
  · cases picture.rows[row]? <;> simp [inRow]

theorem depicts_ofArray_swapAxes {picture : Picture} {display : Display} {scale : Nat}
    {palette : Palette} (depicts : picture.Depicts display scale palette) :
    (ofArray picture.swapAxes).Depicts display scale palette := by
  refine ⟨depicts.width, depicts.height, fun column row inRow inColumn => ?_⟩
  rw [pixel?_ofArray_swapAxes]
  exact depicts.pixel column row inRow inColumn

end Surface

end Chip8
