/-!
# The arithmetic unit

Sums, differences and shifts on two operands, each with its result byte and its flag. Operands are
signed 32-bit numbers, so that a carry out of a byte can be seen in the sum; registers give operands
from 0 to 255. Sums and differences wrap at 32 bits.
-/

namespace Chip8.Arithmetic

/-- A result byte and the flag that goes with it. -/
structure Outcome where
  value : UInt8
  flag : Bool
deriving DecidableEq, Repr

/-- The low eight bits. -/
def lowByte (number : Int32) : UInt8 :=
  number.toUInt32.toUInt8

/-- The flag is the carry out of the byte. -/
def add (x y : Int32) : Outcome :=
  ⟨lowByte (x + y), 255 < x + y⟩

/-- The flag is clear on a borrow. -/
def subtract (x y : Int32) : Outcome :=
  ⟨lowByte (x - y), y ≤ x⟩

/-- The difference with the operands exchanged. -/
def subtractFrom (x y : Int32) : Outcome :=
  subtract y x

/-- Halves the first operand; the flag is the bit shifted out. The second operand is not used. -/
def shiftRight (x _y : Int32) : Outcome :=
  ⟨lowByte (x >>> 1), x &&& 1 = 1⟩

/-- Doubles the first operand; the flag is bit 7, which leaves the byte. The second operand is not
used. -/
def shiftLeft (x _y : Int32) : Outcome :=
  ⟨lowByte (x <<< 1), x &&& 0x80 = 0x80⟩

/-- A register as an operand. -/
def operand (byte : UInt8) : Int32 :=
  byte.toUInt32.toInt32

example : add 200 100 = ⟨44, true⟩ := by decide

example : subtract 3 5 = ⟨254, false⟩ := by decide

example : add 2147483647 1 = ⟨0, false⟩ := by decide

end Chip8.Arithmetic
