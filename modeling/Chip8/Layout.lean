/-!
# The layout of a CHIP-8 machine's memory

Where a program and the font live in memory, and the font itself. The sizes of memory and of the
other arrays stand in their types (`Chip8.Cells`).
-/

namespace Chip8

/-- The highest address, `0xFFF`. -/
def lastAddress : Nat := 0xFFF

/-- A program is loaded here, and here execution starts. -/
def programStart : Nat := 0x200

/-- The bytes from the program's start to the end of memory. -/
def programCapacity : Nat := lastAddress - programStart + 1

/-- Glyph `g` starts at `fontStart + g * glyphSize`. -/
def fontStart : Nat := 0x000

/-- Every glyph has five rows. -/
def glyphSize : Nat := 5

/-- Five rows for each hexadecimal digit, `0` first. -/
def font : Array UInt8 := #[
  0xF0, 0x90, 0x90, 0x90, 0xF0,
  0x20, 0x60, 0x20, 0x20, 0x70,
  0xF0, 0x10, 0xF0, 0x80, 0xF0,
  0xF0, 0x10, 0xF0, 0x10, 0xF0,
  0x90, 0x90, 0xF0, 0x10, 0x10,
  0xF0, 0x80, 0xF0, 0x10, 0xF0,
  0xF0, 0x80, 0xF0, 0x90, 0xF0,
  0xF0, 0x10, 0x20, 0x40, 0x40,
  0xF0, 0x90, 0xF0, 0x90, 0xF0,
  0xF0, 0x90, 0xF0, 0x10, 0xF0,
  0xF0, 0x90, 0xF0, 0x90, 0x90,
  0xE0, 0x90, 0xE0, 0x90, 0xE0,
  0xF0, 0x80, 0x80, 0x80, 0xF0,
  0xE0, 0x90, 0x90, 0x90, 0xE0,
  0xF0, 0x80, 0xF0, 0x80, 0xF0,
  0xF0, 0x80, 0xF0, 0x80, 0x80]

/-- The font has sixteen glyphs and ends below the program area. -/
theorem font_size : font.size = 16 * glyphSize := rfl

example : programCapacity = 3584 := rfl

end Chip8
