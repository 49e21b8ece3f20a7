import CallEffects.Decimal
import CallEffects.Text.Hidden
import CallEffects.Value.Basic

/-!
# The text of a value

How a value is shown. Numbers are in decimal, code units in hexadecimal. A string is between double
quotes, with a backslash in front of the quote and of the backslash itself, short escapes for NUL,
tab, line feed and carriage return, and the code point in hexadecimal for every other character that
would not show on its own.

## Main definitions

* `Text.hex`, `Text.hexPadded` — a number in lower-case hexadecimal
* `Text.escape`, `Text.quote` — a character inside quotes, and a whole string
* `Value.display` — how a value is shown
-/

namespace CallEffects

namespace Text

/-! ### Hexadecimal numerals -/

/-- A number in lower-case hexadecimal, without zeros in front. -/
def hex (n : Nat) : List Char := Nat.toDigits 16 n

/-- A number in lower-case hexadecimal, with at least `width` digits. -/
def hexPadded (width n : Nat) : List Char :=
  List.replicate (width - (hex n).length) '0' ++ hex n

/-! ### Quoted strings -/

/-- One character inside quotes. -/
def escape (c : Char) : List Char :=
  match c with
  | '\x00' => ['\\', '0']
  | '\t' => ['\\', 't']
  | '\n' => ['\\', 'n']
  | '\r' => ['\\', 'r']
  | '\x22' => ['\\', '\x22']
  | '\\' => ['\\', '\\']
  | c => if isHidden c then ['\\', 'u', '\x7b'] ++ hex c.toNat ++ ['\x7d'] else [c]

/-- A string between double quotes. -/
def quote (s : String) : String :=
  String.ofList (['\x22'] ++ s.toList.flatMap escape ++ ['\x22'])

end Text

/-! ### Values -/

namespace Value

/-- The characters by which a value is shown: long constants end in `L` and float constants in
`f`, a code unit is given by its number, and a value that is not known shows no origin. -/
def displayChars : Value → List Char
  | boolean b => if b then "true".toList else "false".toList
  | byte v => Decimal.ofInt v.toInt
  | short v => Decimal.ofInt v.toInt
  | char u => ['\x27', '\\', 'u'] ++ Text.hexPadded 4 u.toNat ++ ['\x27']
  | int v => Decimal.ofInt v.toInt
  | long v => Decimal.ofInt v.toInt ++ ['L']
  | float bits => Decimal.showBits binary32 bits.toNat ++ ['f']
  | double bits => Decimal.showBits binary64 bits.toNat
  | string s => (Text.quote s).toList
  | null => "null".toList
  | unknown _ => "<unknown>".toList

/-- How a value is shown. -/
def display (v : Value) : String := String.ofList v.displayChars

end Value

end CallEffects
