import Chip8.Text.Hexadecimal

/-!
# Faults and failures

A fault is what an instruction does when it reaches past one of the machine's arrays. Inside the
machine it is a one-byte code, zero while the machine is healthy. To a host it is one of the
failures of an operation, each with its wording.
-/

namespace Chip8

/-- The ways to reach past an array. -/
inductive Fault where
  | memory | stackOverflow | stackUnderflow | display | keypad
deriving DecidableEq, Repr

namespace Fault

/-- The code of a healthy machine. -/
def healthy : UInt8 := 0

/-- The code of a fault; none is that of a healthy machine. -/
def code : Fault → UInt8
  | .memory => 1
  | .stackOverflow => 2
  | .stackUnderflow => 3
  | .display => 4
  | .keypad => 5

theorem code_ne_healthy (fault : Fault) : fault.code ≠ healthy := by
  cases fault <;> decide

def description : Fault → String
  | .memory => "memory access past 0xFFF"
  | .stackOverflow => "call stack overflow"
  | .stackUnderflow => "return with empty call stack"
  | .display => "sprite pixel outside the display buffer"
  | .keypad => "key index outside 0x0-0xF"

/-- All faults, in the order of their codes. -/
def all : List Fault := [.memory, .stackOverflow, .stackUnderflow, .display, .keypad]

/-- The fault of a code, if it has one. -/
def ofCode? (code : Int) : Option Fault :=
  all.find? fun fault => (fault.code.toNat : Int) = code

theorem ofCode?_code (fault : Fault) : ofCode? fault.code.toNat = some fault := by
  cases fault <;> decide

/-- What a code says; a code of no fault is shown as it is. -/
def describe (code : Int) : String :=
  if code = 0 then "no fault"
  else match ofCode? code with
    | some fault => fault.description
    | none => "fault " ++ toString code

end Fault

/-- Why an operation of a machine failed. -/
inductive Failure where
  /-- A program image larger than the program area. -/
  | oversizedProgram (size capacity : Int)
  /-- A word that matches no pattern, where execution is strict. -/
  | unknownOpcode (opcode address : Int)
  /-- An instruction that reached past an array; the machine is halted. -/
  | outOfRange (fault address opcode : Int)
  /-- A key that is not on the keypad. -/
  | invalidKey (key : Int)
deriving DecidableEq, Repr

/-- An instruction word and the address it was read from, as texts show them. -/
def wordAndAddress (opcode address : Int) : String :=
  "0x" ++ Text.hexadecimal 4 opcode ++ " at 0x" ++ Text.hexadecimal 3 address

/-- The wording of a failure. -/
def Failure.message : Failure → String
  | .oversizedProgram size capacity =>
    "program of " ++ toString size ++ " bytes does not fit in " ++ toString capacity ++
      " bytes of program memory"
  | .unknownOpcode opcode address => "unknown opcode " ++ wordAndAddress opcode address
  | .outOfRange fault address opcode =>
    Fault.describe fault ++ " (opcode " ++ wordAndAddress opcode address ++ "); reset required"
  | .invalidKey key => "Key id must be in 0..15, got " ++ toString key

end Chip8
