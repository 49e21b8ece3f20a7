/-!
# Binary floating-point numbers

A floating-point constant is kept as the bits of its interchange format: a sign, a biased exponent
and a fraction. This module says which number the bits stand for.

## Main definitions

* `BinaryFormat`, `binary32`, `binary64` — the field widths
* `BinaryNumber`, `BinaryFormat.decode` — the number that bits stand for
* `BinaryFormat.sameNumber` — comparison of two bit patterns as numbers
-/

namespace CallEffects

/-- The field widths of a binary interchange format. -/
structure BinaryFormat where
  /-- The bits of the fraction. -/
  fractionBits : Nat
  /-- The bits of the exponent. -/
  exponentBits : Nat

/-- The format of 32 bits. -/
def binary32 : BinaryFormat := ⟨23, 8⟩

/-- The format of 64 bits. -/
def binary64 : BinaryFormat := ⟨52, 11⟩

/-- The magnitude `significand * 2 ^ exponent` of a finite number that is not zero. -/
structure Magnitude where
  /-- The significand. -/
  significand : Nat
  /-- The exponent of two. -/
  exponent : Int
  /-- The numbers just below are spaced twice as finely as those just above. -/
  finerBelow : Bool

/-- What the bits of a format stand for. -/
inductive BinaryNumber where
  /-- Not a number. -/
  | nan
  /-- An infinity. -/
  | infinite (negative : Bool)
  /-- A zero. -/
  | zero (negative : Bool)
  /-- A finite number that is not zero. -/
  | finite (negative : Bool) (magnitude : Magnitude)

namespace BinaryFormat

/-- The number that the bits of a format stand for. -/
def decode (format : BinaryFormat) (bits : Nat) : BinaryNumber :=
  let f := format.fractionBits
  let e := format.exponentBits
  let fraction := bits % Nat.pow 2 f
  let exponent := bits / Nat.pow 2 f % Nat.pow 2 e
  let negative := bits / Nat.pow 2 (f + e) % 2 == 1
  -- the exponent of two of the last place of the smallest numbers
  let least : Int := 2 - Int.ofNat (Nat.pow 2 (e - 1)) - f
  if exponent = Nat.pow 2 e - 1 then
    if fraction = 0 then .infinite negative else .nan
  else if exponent = 0 then
    if fraction = 0 then .zero negative else .finite negative ⟨fraction, least, false⟩
  else
    .finite negative
      ⟨Nat.pow 2 f + fraction, least + (exponent - 1), fraction == 0 && exponent != 1⟩

/-- Equality of the numbers that two bit patterns stand for. A NaN equals nothing, and zero
equals zero whatever the signs. -/
def sameNumber (format : BinaryFormat) (a b : Nat) : Bool :=
  match format.decode a, format.decode b with
  | .nan, _ => false
  | _, .nan => false
  | .zero _, .zero _ => true
  | _, _ => a == b

end BinaryFormat

end CallEffects
