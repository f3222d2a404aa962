import Chip8.Session
import Chip8.Text.Numeral

/-!
# A session on a terminal

A terminal stands in for the window. A line that is typed is one frame; its words are events: `+q`
presses the key `q` and `-q` releases it, `+esc` and `+f5` press those keys, and `quit` closes the
window. Surfaces are drawn with coloured spaces, two for each pixel.
-/

namespace Chip8

/-- The key of a name: a character, `esc` or `f5`. -/
def HostKey.ofName? (name : List Char) : Option HostKey :=
  match name with
  | [c] => some (.character c)
  | ['e', 's', 'c'] => some .escape
  | ['f', '5'] => some .f5
  | _ => none

/-- The event that a word stands for. -/
def HostEvent.ofWord (word : List Char) : HostEvent :=
  match word with
  | ['q', 'u', 'i', 't'] => .quit
  | '+' :: name => ((HostKey.ofName? name).map .keyDown).getD .other
  | '-' :: name => ((HostKey.ofName? name).map .keyUp).getD .other
  | _ => .other

/-- The words of a line, between blanks. -/
def wordsOf (line : List Char) : List (List Char) :=
  (line.splitOnP Text.isBlank).filter (· ≠ [])

/-- The events of a line. -/
def HostEvent.ofLine (line : String) : List HostEvent :=
  (wordsOf line.toList).map HostEvent.ofWord

/-- A pixel as two spaces on a background of its colour. -/
def Colour.onTerminal (colour : Colour) : String :=
  "\x1b[48;2;" ++ toString colour.red ++ ";" ++ toString colour.green ++ ";" ++
    toString colour.blue ++ "m  "

/-- A surface, one line for each row of pixels. -/
def Surface.onTerminal (surface : Surface) : String :=
  String.join <| (List.finRange surface.height).map fun row =>
    String.join (surface.columns.toList.map fun column => column[row].onTerminal) ++ "\x1b[0m\n"

/-- What a terminal is sent for an effect. -/
def Effect.onTerminal : Effect → String
  | .open => "\x1b[2J"
  | .setSize _ _ => ""
  | .setCaption text => "\x1b]0;" ++ text ++ "\x07"
  | .tick _ => ""
  | .show surface => "\x1b[H" ++ surface.onTerminal
  | .flip => ""
  | .close => "\x1b[0m"
  | .print text => text

end Chip8
