import Chip8.Machine

/-!
# Statistics of a machine

Counts of a machine's events since it was last reset, and which unknown words it met.
-/

namespace Chip8

structure Statistics where
  steps : Nat
  unknownOpcodes : Nat
  tones : Nat
  faults : Nat
  /-- Each unknown word that was met, once, in ascending order. -/
  distinctOpcodes : List Int
deriving DecidableEq, Repr

namespace Statistics

def zero : Statistics := ⟨0, 0, 0, 0, []⟩

/-- An ascending list with one more member; a member stays as it is. -/
def insertDistinct (value : Int) : List Int → List Int
  | [] => [value]
  | head :: tail =>
    if value < head then value :: head :: tail
    else if value = head then head :: tail
    else head :: insertDistinct value tail

/-- Counts an event; a reset starts again from nothing. -/
def count (statistics : Statistics) : Event → Statistics
  | .reset => zero
  | .loaded _ => statistics
  | .stepped _ => { statistics with steps := statistics.steps + 1 }
  | .unknownOpcode opcode _ =>
    { statistics with
      unknownOpcodes := statistics.unknownOpcodes + 1
      distinctOpcodes := insertDistinct opcode statistics.distinctOpcodes }
  | .tone => { statistics with tones := statistics.tones + 1 }
  | .halted .. => { statistics with faults := statistics.faults + 1 }

/-- Counts events in order. -/
def countAll (statistics : Statistics) (events : List Event) : Statistics :=
  events.foldl count statistics

end Statistics

end Chip8
