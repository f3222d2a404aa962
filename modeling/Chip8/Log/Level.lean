import Chip8.Text.Quoted

/-!
# Log levels

Five levels of weight. A level is named by its word in capitals or small letters.
-/

namespace Chip8.Log

/-- The levels, the lightest first. -/
inductive Level where
  | debug | info | warning | error | critical
deriving DecidableEq, Repr

namespace Level

def all : List Level := [.debug, .info, .warning, .error, .critical]

def weight : Level → Nat
  | .debug => 0
  | .info => 1
  | .warning => 2
  | .error => 3
  | .critical => 4

def name : Level → String
  | .debug => "DEBUG"
  | .info => "INFO"
  | .warning => "WARNING"
  | .error => "ERROR"
  | .critical => "CRITICAL"

/-- The number by which a terminal selects the level's colour. -/
def colour : Level → String
  | .debug => "36"
  | .info => "32"
  | .warning => "33"
  | .error => "31"
  | .critical => "35"

/-- The capital of a letter, where that is a letter from `A` to `Z`: the small letters have one, and
so have the dotless `ı` and the long `ſ`. The letters whose capitals are several letters make no
part of a level's name. -/
def capital (c : Char) : Char :=
  if 'a' ≤ c ∧ c ≤ 'z' then c.toUpper
  else if c = 'ı' then 'I'
  else if c = 'ſ' then 'S'
  else c

/-- The level of a name. -/
def ofName? (text : String) : Option Level :=
  let capitals := String.ofList (text.toList.map capital)
  all.find? fun level => level.name = capitals

theorem ofName?_name (level : Level) : ofName? level.name = some level := by
  cases level <;> cbv

example : ofName? "warNıng" = some .warning := by cbv

end Level

/-- The wording for a name that no level has. -/
def unknownLevelMessage (name : String) : String :=
  "Unknown log level '" ++ name ++ "'. Available: " ++ Text.quotedList (Level.all.map Level.name)

end Chip8.Log
