import Chip8.Cells

/-!
# The call stack

Sixteen words and a pointer, which counts the calls that are open. Pushing on a full stack and
popping an empty one still yield a stack; they also report that the stack was full, or empty.
The pointer is a byte and wraps.
-/

namespace Chip8

structure CallStack where
  saved : SavedAddresses
  pointer : UInt8
deriving DecidableEq, Repr

namespace CallStack

/-- No call is open and every word is zero. -/
def empty : CallStack := ⟨Vector.replicate 16 0, 0⟩

/-- A stack with sixteen open calls takes no more. -/
def isFull (stack : CallStack) : Bool := 16 ≤ stack.pointer

def isEmpty (stack : CallStack) : Bool := stack.pointer = 0

/-- Saves the twelve bits of an address; a full stack only moves its pointer. -/
def push (stack : CallStack) (address : UInt16) : CallStack :=
  ⟨stack.saved.setIfInBounds stack.pointer.toNat (address &&& 0xFFF), stack.pointer + 1⟩

/-- The pointer after a pop: that of an empty stack stays. -/
def popped (stack : CallStack) : UInt8 :=
  if stack.isEmpty then stack.pointer else stack.pointer - 1

/-- The address that a pop takes. -/
def top (edge : Edge) (stack : CallStack) : UInt16 :=
  readCell stack.saved edge.saved stack.popped.toNat

/-- The stack without its top, whose word is cleared. -/
def pop (stack : CallStack) : CallStack :=
  ⟨stack.saved.setIfInBounds stack.popped.toNat 0, stack.popped⟩

end CallStack

end Chip8
