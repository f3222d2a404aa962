import Chip8.Picture
import Chip8.Text.Quoted

/-!
# Named palettes
-/

namespace Chip8.Palette

/-- Green on black. -/
def classic : Palette := ⟨⟨0, 255, 0⟩, ⟨0, 0, 0⟩⟩

/-- The palettes that have names. -/
def named : List (String × Palette) := [
  ("purple", ⟨⟨179, 102, 184⟩, ⟨45, 25, 61⟩⟩),
  ("classic", classic),
  ("amber", ⟨⟨255, 176, 0⟩, ⟨0, 0, 0⟩⟩),
  ("white", ⟨⟨255, 255, 255⟩, ⟨0, 0, 0⟩⟩),
  ("blue", ⟨⟨0, 255, 255⟩, ⟨0, 0, 64⟩⟩),
  ("retro", ⟨⟨255, 255, 0⟩, ⟨64, 0, 64⟩⟩)]

/-- The palette of a name. -/
def ofName? (name : String) : Option Palette := named.lookup name

/-- The wording for a name that no palette has. -/
def unknownMessage (name : String) : String :=
  "Unknown color scheme '" ++ name ++ "'. Available: " ++ Text.quotedList (named.map (·.1))

end Chip8.Palette
