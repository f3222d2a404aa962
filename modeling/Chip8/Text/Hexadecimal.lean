/-!
# Hexadecimal numbers

Numbers written with upper-case hexadecimal digits, filled with zeros to a width. A minus sign
counts towards the width and stands before the zeros.
-/

namespace Chip8.Text

/-- The digit for a value below sixteen. -/
def hexDigit (value : Nat) : Char :=
  if value < 10 then Char.ofNat (48 + value) else Char.ofNat (55 + value)

/-- The digits of a number, the highest first; zero has one digit. -/
def hexDigits (number : Nat) : List Char :=
  if number < 16 then [hexDigit number]
  else hexDigits (number / 16) ++ [hexDigit (number % 16)]
termination_by number
decreasing_by omega

/-- The number in at least `width` characters. -/
def hexadecimal (width : Nat) (number : Int) : String :=
  let sign := if number < 0 then ['-'] else []
  let digits := hexDigits number.natAbs
  let zeros := List.replicate (width - sign.length - digits.length) '0'
  String.ofList (sign ++ zeros ++ digits)

example : hexadecimal 4 0xBEEF = "BEEF" := by cbv

example : hexadecimal 3 0x2A = "02A" := by cbv

example : hexadecimal 4 (-1) = "-001" := by cbv

end Chip8.Text
