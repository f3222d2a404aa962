import Chip8.Text.Printable

/-!
# Quoted text

A text between quotation marks, with escapes for what would not show. Apostrophes enclose it unless
it holds an apostrophe and no double quote. The enclosing mark and the backslash get a backslash;
line feed, carriage return and tab have letters; every other character that does not print is
written with two, four or eight hexadecimal digits.
-/

namespace Chip8.Text

/-- The mark that encloses a text. -/
def enclosing (chars : List Char) : Char :=
  if chars.contains '\'' && !chars.contains '"' then '"' else '\''

/-- Lower-case hexadecimal digits, filled with zeros to a width. -/
def escapeDigits (width number : Nat) : List Char :=
  let digits := Nat.toDigits 16 number
  List.replicate (width - digits.length) '0' ++ digits

/-- A character as it stands between the marks. -/
def escape (mark : Char) (c : Char) : List Char :=
  if c = mark || c = '\\' then ['\\', c]
  else if c = '\n' then ['\\', 'n']
  else if c = '\r' then ['\\', 'r']
  else if c = '\t' then ['\\', 't']
  else if isPrintable c then [c]
  else if c.toNat < 0x100 then '\\' :: 'x' :: escapeDigits 2 c.toNat
  else if c.toNat < 0x10000 then '\\' :: 'u' :: escapeDigits 4 c.toNat
  else '\\' :: 'U' :: escapeDigits 8 c.toNat

/-- The text between its marks. -/
def quoted (text : String) : String :=
  let mark := enclosing text.toList
  String.ofList (mark :: text.toList.flatMap (escape mark) ++ [mark])

/-- Quoted texts between square brackets. -/
def quotedList (texts : List String) : String :=
  "[" ++ ", ".intercalate (texts.map quoted) ++ "]"

example : quoted "it's" = "\"it's\"" := by cbv

example : quoted "a\\b\x00" = "'a\\\\b\\x00'" := by cbv

example : quotedList ["DEBUG", "INFO"] = "['DEBUG', 'INFO']" := by cbv

end Chip8.Text
