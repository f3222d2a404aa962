/-!
# Numbers with fixed places

A number written with a fixed count of decimal places, rounded from its exact value: to the nearest,
and a tie to the even neighbour. The sign is that of the number, also where nothing but zeros is
left of it.
-/

namespace Chip8.Text

/-- The natural number nearest to a quotient; of two equally near, the even one. -/
def nearestQuotient (numerator denominator : Nat) : Nat :=
  let below := numerator / denominator
  let twice := 2 * (numerator % denominator)
  if twice < denominator then below
  else if denominator < twice then below + 1
  else if below % 2 = 0 then below
  else below + 1

/-- A number taken apart: its sign and, if it is finite, its value as a fraction. -/
inductive Magnitude where
  | finite (numerator denominator : Nat)
  | infinite
  | undefined
deriving DecidableEq, Repr

/-- Whether the number has a minus sign. -/
def isNegative (number : Float) : Bool := number.toBits >>> 63 = 1

/-- The absolute value, exactly: the 52 low bits are the fraction, the 11 above them the exponent. -/
def magnitude (number : Float) : Magnitude :=
  let bits := number.toBits.toNat
  let exponent := bits / 0x10000000000000 % 0x800
  let fraction := bits % 0x10000000000000
  if exponent = 0x7FF then if fraction = 0 then .infinite else .undefined
  else
    let significand := if exponent = 0 then fraction else fraction + 0x10000000000000
    let scale := max exponent 1
    .finite (significand <<< (scale - 1075)) (1 <<< (1075 - scale))

/-- A whole number with a point before its last `places` digits. -/
def withPoint (places scaled : Nat) : List Char :=
  let fraction := Nat.toDigits 10 (scaled % Nat.pow 10 places)
  Nat.toDigits 10 (scaled / Nat.pow 10 places) ++
    '.' :: (List.replicate (places - fraction.length) '0' ++ fraction)

/-- A number with `places` decimal places, at least one. -/
def fixed (places : Nat) (number : Float) : List Char :=
  let sign := if isNegative number then ['-'] else []
  match magnitude number with
  | .finite numerator denominator =>
    sign ++ withPoint places (nearestQuotient (numerator * Nat.pow 10 places) denominator)
  | .infinite => sign ++ ['i', 'n', 'f']
  | .undefined => ['n', 'a', 'n']

/-- Characters filled up on the left with spaces. -/
def padLeft (width : Nat) (chars : List Char) : List Char :=
  List.replicate (width - chars.length) ' ' ++ chars

example : nearestQuotient 5 2 = 2 ∧ nearestQuotient 7 2 = 4 ∧ nearestQuotient 8 3 = 3 := by decide

example : withPoint 2 105 = ['1', '.', '0', '5'] := by decide

end Chip8.Text
