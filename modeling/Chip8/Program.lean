import Chip8.State

/-!
# Programs

A program is a sequence of bytes, copied to memory from `0x200` on. One that reaches past the end of
memory is refused.
-/

namespace Chip8

/-- The bytes of a program. -/
abbrev Program := Array UInt8

/-- Loads a program, which must fit in the program area. -/
def State.load (state : State) (program : Program) : Except Failure State :=
  if programCapacity < program.size then
    .error (.oversizedProgram program.size programCapacity)
  else
    .ok { state with memory := state.memory.write programStart program.toList }

end Chip8
