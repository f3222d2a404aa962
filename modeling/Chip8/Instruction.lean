/-!
# Instruction words

An instruction is a 16-bit word. Its kind, an `Op`, is fixed by the one pattern that the word
matches; the digits that the pattern leaves free are operands. Words arrive as signed 32-bit
numbers, of which only the low 16 bits count.

`Instruction.decode` reads a word into an `Instruction`, which carries the operands of its kind, and
`Instruction.encode` writes the word back. `op_decode` says that the instruction read is of the kind
that `classify` names.
-/

namespace Chip8

/-- The kinds of instruction, in the order of their patterns, and a last one for all other words. -/
inductive Op where
  | clearScreen | ret | jump | call
  | skipEqByte | skipNeByte | skipEqRegister
  | setByte | addByte
  | copy | or | and | xor | add | subtract | shiftRight | subtractFrom | shiftLeft
  | skipNeRegister
  | setIndex | jumpOffset | random | draw
  | skipKeyDown | skipKeyUp
  | readDelay | awaitKey | setDelay | setSound | addIndex | glyph | decimal
  | storeRegisters | loadRegisters
  | unknown
deriving DecidableEq, Repr

/-- A word matches when the digits under the mask are those of the value. -/
structure Pattern where
  mask : UInt32
  value : UInt32
  op : Op
deriving DecidableEq, Repr

/-- Whether the word matches the pattern. -/
def Pattern.accepts (pattern : Pattern) (word : Int32) : Bool :=
  word.toUInt32 &&& pattern.mask == pattern.value

/-- The patterns of the instruction set. -/
def patterns : List Pattern := [
  ⟨0xFFFF, 0x00E0, .clearScreen⟩,
  ⟨0xFFFF, 0x00EE, .ret⟩,
  ⟨0xF000, 0x1000, .jump⟩,
  ⟨0xF000, 0x2000, .call⟩,
  ⟨0xF000, 0x3000, .skipEqByte⟩,
  ⟨0xF000, 0x4000, .skipNeByte⟩,
  ⟨0xF00F, 0x5000, .skipEqRegister⟩,
  ⟨0xF000, 0x6000, .setByte⟩,
  ⟨0xF000, 0x7000, .addByte⟩,
  ⟨0xF00F, 0x8000, .copy⟩,
  ⟨0xF00F, 0x8001, .or⟩,
  ⟨0xF00F, 0x8002, .and⟩,
  ⟨0xF00F, 0x8003, .xor⟩,
  ⟨0xF00F, 0x8004, .add⟩,
  ⟨0xF00F, 0x8005, .subtract⟩,
  ⟨0xF00F, 0x8006, .shiftRight⟩,
  ⟨0xF00F, 0x8007, .subtractFrom⟩,
  ⟨0xF00F, 0x800E, .shiftLeft⟩,
  ⟨0xF00F, 0x9000, .skipNeRegister⟩,
  ⟨0xF000, 0xA000, .setIndex⟩,
  ⟨0xF000, 0xB000, .jumpOffset⟩,
  ⟨0xF000, 0xC000, .random⟩,
  ⟨0xF000, 0xD000, .draw⟩,
  ⟨0xF0FF, 0xE09E, .skipKeyDown⟩,
  ⟨0xF0FF, 0xE0A1, .skipKeyUp⟩,
  ⟨0xF0FF, 0xF007, .readDelay⟩,
  ⟨0xF0FF, 0xF00A, .awaitKey⟩,
  ⟨0xF0FF, 0xF015, .setDelay⟩,
  ⟨0xF0FF, 0xF018, .setSound⟩,
  ⟨0xF0FF, 0xF01E, .addIndex⟩,
  ⟨0xF0FF, 0xF029, .glyph⟩,
  ⟨0xF0FF, 0xF033, .decimal⟩,
  ⟨0xF0FF, 0xF055, .storeRegisters⟩,
  ⟨0xF0FF, 0xF065, .loadRegisters⟩]

/-- The kind named by the first pattern of the table that the word matches. -/
def classifyBy (table : List Pattern) (word : Int32) : Op :=
  match table.find? (·.accepts word) with
  | some pattern => pattern.op
  | none => .unknown

/-- The kind of a word. -/
def classify (word : Int32) : Op :=
  classifyBy patterns word

/-! ## Operand fields -/

namespace Word

/-- The word as an unsigned number; the fields are its digits in base sixteen. -/
def unsigned (word : Int32) : Nat := word.toUInt32.toNat

/-- The second of the four digits, which names the register `VX`. -/
def x (word : Int32) : Fin 16 := Fin.ofNat 16 (unsigned word / 0x100)

/-- The third digit, which names the register `VY`. -/
def y (word : Int32) : Fin 16 := Fin.ofNat 16 (unsigned word / 0x10)

/-- The last digit. -/
def n (word : Int32) : Fin 16 := Fin.ofNat 16 (unsigned word)

/-- The last two digits. -/
def nn (word : Int32) : UInt8 := UInt8.ofNat (unsigned word)

/-- The last three digits, an address. -/
def nnn (word : Int32) : UInt16 := UInt16.ofNat (unsigned word % 0x1000)

/-- The low sixteen bits. -/
def low (word : Int32) : UInt16 := UInt16.ofNat (unsigned word)

end Word

/-! ## Instructions -/

/-- An instruction with its operands; a word that matches no pattern is kept as it is. -/
inductive Instruction where
  | clearScreen
  | ret
  | jump (target : UInt16)
  | call (target : UInt16)
  | skipEqByte (x : Fin 16) (byte : UInt8)
  | skipNeByte (x : Fin 16) (byte : UInt8)
  | skipEqRegister (x y : Fin 16)
  | setByte (x : Fin 16) (byte : UInt8)
  | addByte (x : Fin 16) (byte : UInt8)
  | copy (x y : Fin 16)
  | or (x y : Fin 16)
  | and (x y : Fin 16)
  | xor (x y : Fin 16)
  | add (x y : Fin 16)
  | subtract (x y : Fin 16)
  | shiftRight (x y : Fin 16)
  | subtractFrom (x y : Fin 16)
  | shiftLeft (x y : Fin 16)
  | skipNeRegister (x y : Fin 16)
  | setIndex (address : UInt16)
  | jumpOffset (base : UInt16)
  | random (x : Fin 16) (mask : UInt8)
  | draw (x y height : Fin 16)
  | skipKeyDown (x : Fin 16)
  | skipKeyUp (x : Fin 16)
  | readDelay (x : Fin 16)
  | awaitKey (x : Fin 16)
  | setDelay (x : Fin 16)
  | setSound (x : Fin 16)
  | addIndex (x : Fin 16)
  | glyph (x : Fin 16)
  | decimal (x : Fin 16)
  | storeRegisters (x : Fin 16)
  | loadRegisters (x : Fin 16)
  | unknown (word : UInt16)
deriving DecidableEq, Repr

namespace Instruction

open Word

/-- The instruction that a word stands for. -/
def decode (word : Int32) : Instruction :=
  match classify word with
  | .clearScreen => .clearScreen
  | .ret => .ret
  | .jump => .jump (nnn word)
  | .call => .call (nnn word)
  | .skipEqByte => .skipEqByte (x word) (nn word)
  | .skipNeByte => .skipNeByte (x word) (nn word)
  | .skipEqRegister => .skipEqRegister (x word) (y word)
  | .setByte => .setByte (x word) (nn word)
  | .addByte => .addByte (x word) (nn word)
  | .copy => .copy (x word) (y word)
  | .or => .or (x word) (y word)
  | .and => .and (x word) (y word)
  | .xor => .xor (x word) (y word)
  | .add => .add (x word) (y word)
  | .subtract => .subtract (x word) (y word)
  | .shiftRight => .shiftRight (x word) (y word)
  | .subtractFrom => .subtractFrom (x word) (y word)
  | .shiftLeft => .shiftLeft (x word) (y word)
  | .skipNeRegister => .skipNeRegister (x word) (y word)
  | .setIndex => .setIndex (nnn word)
  | .jumpOffset => .jumpOffset (nnn word)
  | .random => .random (x word) (nn word)
  | .draw => .draw (x word) (y word) (n word)
  | .skipKeyDown => .skipKeyDown (x word)
  | .skipKeyUp => .skipKeyUp (x word)
  | .readDelay => .readDelay (x word)
  | .awaitKey => .awaitKey (x word)
  | .setDelay => .setDelay (x word)
  | .setSound => .setSound (x word)
  | .addIndex => .addIndex (x word)
  | .glyph => .glyph (x word)
  | .decimal => .decimal (x word)
  | .storeRegisters => .storeRegisters (x word)
  | .loadRegisters => .loadRegisters (x word)
  | .unknown => .unknown (low word)

/-- The kind of an instruction. -/
def op : Instruction → Op
  | .clearScreen => .clearScreen
  | .ret => .ret
  | .jump .. => .jump
  | .call .. => .call
  | .skipEqByte .. => .skipEqByte
  | .skipNeByte .. => .skipNeByte
  | .skipEqRegister .. => .skipEqRegister
  | .setByte .. => .setByte
  | .addByte .. => .addByte
  | .copy .. => .copy
  | .or .. => .or
  | .and .. => .and
  | .xor .. => .xor
  | .add .. => .add
  | .subtract .. => .subtract
  | .shiftRight .. => .shiftRight
  | .subtractFrom .. => .subtractFrom
  | .shiftLeft .. => .shiftLeft
  | .skipNeRegister .. => .skipNeRegister
  | .setIndex .. => .setIndex
  | .jumpOffset .. => .jumpOffset
  | .random .. => .random
  | .draw .. => .draw
  | .skipKeyDown .. => .skipKeyDown
  | .skipKeyUp .. => .skipKeyUp
  | .readDelay .. => .readDelay
  | .awaitKey .. => .awaitKey
  | .setDelay .. => .setDelay
  | .setSound .. => .setSound
  | .addIndex .. => .addIndex
  | .glyph .. => .glyph
  | .decimal .. => .decimal
  | .storeRegisters .. => .storeRegisters
  | .loadRegisters .. => .loadRegisters
  | .unknown .. => .unknown

theorem op_decode (word : Int32) : (decode word).op = classify word := by
  unfold decode
  split <;> simp_all [op]

/-- Four digits, the first the highest. -/
def digits (first second third fourth : Nat) : UInt16 :=
  UInt16.ofNat (0x1000 * first + 0x100 * second + 0x10 * third + fourth)

/-- The word of an instruction: the pattern's value with the operands in the free digits. -/
def encode : Instruction → UInt16
  | .clearScreen => 0x00E0
  | .ret => 0x00EE
  | .jump target => 0x1000 + target
  | .call target => 0x2000 + target
  | .skipEqByte x byte => digits 0x3 x 0 0 + byte.toUInt16
  | .skipNeByte x byte => digits 0x4 x 0 0 + byte.toUInt16
  | .skipEqRegister x y => digits 0x5 x y 0
  | .setByte x byte => digits 0x6 x 0 0 + byte.toUInt16
  | .addByte x byte => digits 0x7 x 0 0 + byte.toUInt16
  | .copy x y => digits 0x8 x y 0x0
  | .or x y => digits 0x8 x y 0x1
  | .and x y => digits 0x8 x y 0x2
  | .xor x y => digits 0x8 x y 0x3
  | .add x y => digits 0x8 x y 0x4
  | .subtract x y => digits 0x8 x y 0x5
  | .shiftRight x y => digits 0x8 x y 0x6
  | .subtractFrom x y => digits 0x8 x y 0x7
  | .shiftLeft x y => digits 0x8 x y 0xE
  | .skipNeRegister x y => digits 0x9 x y 0
  | .setIndex address => 0xA000 + address
  | .jumpOffset base => 0xB000 + base
  | .random x mask => digits 0xC x 0 0 + mask.toUInt16
  | .draw x y height => digits 0xD x y height
  | .skipKeyDown x => digits 0xE x 0x9 0xE
  | .skipKeyUp x => digits 0xE x 0xA 0x1
  | .readDelay x => digits 0xF x 0x0 0x7
  | .awaitKey x => digits 0xF x 0x0 0xA
  | .setDelay x => digits 0xF x 0x1 0x5
  | .setSound x => digits 0xF x 0x1 0x8
  | .addIndex x => digits 0xF x 0x1 0xE
  | .glyph x => digits 0xF x 0x2 0x9
  | .decimal x => digits 0xF x 0x3 0x3
  | .storeRegisters x => digits 0xF x 0x5 0x5
  | .loadRegisters x => digits 0xF x 0x6 0x5
  | .unknown word => word

end Instruction

example : Instruction.decode 0xD125 = .draw 1 2 5 := by decide

example : Instruction.decode (-38144) = .setByte 0xB 0x00 := by decide

example : Instruction.decode 0x5121 = .unknown 0x5121 := by decide

end Chip8
