/-!
# The machine's arrays and their edges

Memory, display, registers, keypad and saved return addresses are arrays of fixed size. Two rules
hold for all of them. A write past the end of an array is dropped, which is `Vector.setIfInBounds`.
A read past the end of an array has a value too, and which one is the choice of an `Edge`: the
machine itself runs with `Edge.last`, where such a read yields the last cell. The operations take
the edge as an argument so that a law can say which results do not depend on it.
-/

namespace Chip8

/-- Byte-addressable memory, addresses `0x000` to `0xFFF`. -/
abbrev Memory := Vector UInt8 4096

/-- The screen, row by row: cell `(x, y)` is at `x + 64 * y`. -/
abbrev Display := Vector Bool 2048

/-- `V0` to `VF`. -/
abbrev Registers := Vector UInt8 16

/-- Which of the keys `0` to `F` are down. -/
abbrev Keypad := Vector Bool 16

/-- The words of the call stack, the outermost call first. -/
abbrev SavedAddresses := Vector UInt16 16

/-- What a read past the end of each array yields. -/
structure Edge where
  memory : Memory → Nat → UInt8
  display : Display → Nat → Bool
  keypad : Keypad → Nat → Bool
  saved : SavedAddresses → Nat → UInt16

/-- Every read past the end yields the last cell. -/
def Edge.last : Edge where
  memory cells _ := cells[4095]
  display cells _ := cells[2047]
  keypad cells _ := cells[15]
  saved cells _ := cells[15]

/-- The cell at a place inside the array. -/
def cellAt {α : Type} {size : Nat} (cells : Vector α size) (place : Fin size) : α :=
  cells[place]

/-- The array with the cell at a place inside it written. -/
def putCell {α : Type} {size : Nat} (cells : Vector α size) (place : Fin size) (value : α) :
    Vector α size :=
  cells.set place value

theorem cellAt_putCell {α : Type} {size : Nat} (cells : Vector α size) (place other : Fin size)
    (value : α) :
    cellAt (putCell cells place value) other = if place = other then value else cellAt cells other := by
  simp [cellAt, putCell, Vector.getElem_set, Fin.ext_iff]

theorem cellAt_ofFn {α : Type} {size : Nat} (entry : Fin size → α) (place : Fin size) :
    cellAt (Vector.ofFn entry) place = entry place := by
  simp [cellAt]

theorem cells_ext {α : Type} {size : Nat} {left right : Vector α size}
    (same : ∀ place, cellAt left place = cellAt right place) : left = right :=
  Vector.ext fun place inside => same ⟨place, inside⟩

/-- The cell at `index`, or what lies `beyond` the array's end. -/
def readCell {α : Type} {size : Nat} (cells : Vector α size) (beyond : Vector α size → Nat → α)
    (index : Nat) : α :=
  if h : index < size then cells[index] else beyond cells index

theorem readCell_of_lt {α : Type} {size : Nat} {cells : Vector α size}
    {beyond : Vector α size → Nat → α} {index : Nat} (inside : index < size) :
    readCell cells beyond index = cells[index] := by
  simp [readCell, inside]

theorem readCell_of_le {α : Type} {size : Nat} {cells : Vector α size}
    {beyond : Vector α size → Nat → α} {index : Nat} (outside : size ≤ index) :
    readCell cells beyond index = beyond cells index := by
  simp [readCell, Nat.not_lt.mpr outside]

/-- Memory with bytes written from an address on; bytes past the end are dropped. -/
def Memory.write (memory : Memory) (address : Nat) : List UInt8 → Memory
  | [] => memory
  | byte :: rest => Memory.write (memory.setIfInBounds address byte) (address + 1) rest

/-- A byte is the one written to its place, if one was. -/
theorem cellAt_write (memory : Memory) (address : Nat) (bytes : List UInt8) (place : Fin 4096) :
    cellAt (memory.write address bytes) place =
      if address ≤ place.val then (bytes[place.val - address]?).getD (cellAt memory place)
      else cellAt memory place := by
  induction bytes generalizing memory address with
  | nil => simp [Memory.write]
  | cons byte rest ih =>
    rw [Memory.write, ih]
    have kept : address ≠ place.val →
        cellAt (memory.setIfInBounds address byte) place = cellAt memory place := fun apart => by
      simp [cellAt, Vector.getElem_setIfInBounds_ne, apart]
    rcases Nat.lt_trichotomy place.val address with before | here | behind
    · rw [kept (by omega), if_neg (by omega), if_neg (by omega)]
    · rw [if_neg (by omega), if_pos (by omega)]
      simp [cellAt, here]
    · rw [kept (by omega), if_pos (by omega), if_pos (by omega),
        show place.val - address = place.val - (address + 1) + 1 by omega, List.getElem?_cons_succ]

/-- The register `V0`, an offset to jumps. -/
def Registers.offset : Fin 16 := ⟨0, by decide⟩

/-- The register `VF`, which holds the flags. -/
def Registers.flag : Fin 16 := ⟨15, by decide⟩

/-- The lowest key that is down. -/
def Keypad.lowest? (keys : Keypad) : Option (Fin 16) :=
  keys.finIdxOf? true

end Chip8
