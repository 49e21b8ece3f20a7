import CallEffects.Binary

/-!
# Decimal numerals

How numbers are written in decimal, and how integers are read.

The shortest decimal of a binary floating-point number is the one with the fewest digits that stands
for it: among the reals that round to the number there is a first grid of decimals with a point in
it, and the point of that grid which is nearest to the number is taken. Of two equally near points
the larger is taken. It is written with as many zeros as it takes to reach the point and without an
exponent; a whole number has no point, and a negative zero keeps its sign.

All arithmetic is exact. A binary number is `m * 2 ^ q` with natural `m`, and the reals that round
to it lie between `m - 1/2` and `m + 1/2` in units of `2 ^ q`; the lower distance is half of that
where the spacing of the numbers below is finer. Both ends round to the number exactly when `m` is
even. Counting in units of `2 ^ (q - 2)` makes both ends whole.

## Main definitions

* `Decimal.ofInt` — an integer in decimal, with a minus sign in front of a negative one
* `Decimal.toInt32?` — an optional sign and at least one digit, read as an integer of 32 bits
* `Decimal.Scaled` — a decimal, `digits * 10 ^ exponent`
* `Decimal.shortest` — the shortest decimal of a binary number
* `Decimal.positional` — a decimal, written out
* `Decimal.showBits` — the number that the bits of a format stand for
-/

namespace CallEffects

namespace Decimal

/-! ### Signed integers -/

/-- An integer in decimal, without zeros in front. -/
def ofInt : Int → List Char
  | .ofNat n => Nat.toDigits 10 n
  | .negSucc n => '-' :: Nat.toDigits 10 (n + 1)

/-- The number that a run of decimal digits stands for. There must be a digit; zeros in front do
not matter. -/
def toNat? (cs : List Char) : Option Nat :=
  if !cs.isEmpty && cs.all Char.isDigit then some (Nat.ofDigitChars 10 cs 0) else none

/-- The integer that an optional sign and a run of decimal digits stand for. -/
def toInt? : List Char → Option Int
  | '+' :: cs => (toNat? cs).map Int.ofNat
  | '-' :: cs => (toNat? cs).map fun n => -Int.ofNat n
  | cs => (toNat? cs).map Int.ofNat

/-- The integer of 32 bits that a text stands for, if it stands for one in range. -/
def toInt32? (cs : List Char) : Option Int32 :=
  match toInt? cs with
  | some n => if -2147483648 ≤ n ∧ n ≤ 2147483647 then some (Int32.ofInt n) else none
  | none => none

/-! ### Shortest decimals -/

/-- The decimal `digits * 10 ^ exponent`. -/
structure Scaled where
  /-- The digits, as one number. -/
  digits : Nat
  /-- The exponent of ten. -/
  exponent : Int

/-- The comparison of `n * 10 ^ k` with `a * 2 ^ u`, for natural `n` and `a`. -/
def compareScaled (n : Nat) (k : Int) (a : Nat) (u : Int) : Ordering :=
  compare (n * Nat.pow 10 k.toNat * Nat.pow 2 (-u).toNat)
    (a * Nat.pow 2 u.toNat * Nat.pow 10 (-k).toNat)

/-- The whole part of `a * 2 ^ u / 10 ^ k`. -/
def floorScaled (a : Nat) (u k : Int) : Nat :=
  a * Nat.pow 2 u.toNat * Nat.pow 10 (-k).toNat /
    (Nat.pow 10 k.toNat * Nat.pow 2 (-u).toNat)

/-- The exponent of ten of the leading digit of `a * 2 ^ u`, for `a` that is not zero. -/
def leadingExponent (a : Nat) (u : Int) : Int :=
  let num := a * Nat.pow 2 u.toNat
  let den := Nat.pow 2 (-u).toNat
  if den ≤ num then
    Int.ofNat ((Nat.toDigits 10 (num / den)).length - 1)
  else
    -- the least `j` with `den ≤ num * 10 ^ j`
    -Int.ofNat (Nat.toDigits 10 ((den - 1) / num)).length

/-- The decimal `n * 10 ^ k` rounds to the number. Both ends are counted in units of
`2 ^ (q - 2)`. -/
def roundsTo (m : Magnitude) (n : Nat) (k : Int) : Bool :=
  let u := m.exponent - 2
  let low := 4 * m.significand - if m.finerBelow then 1 else 2
  let high := 4 * m.significand + 2
  match compareScaled n k low u, compareScaled n k high u with
  | .gt, .lt => true
  | .eq, _ => m.significand % 2 == 0
  | _, .eq => m.significand % 2 == 0
  | _, _ => false

/-- The point of the grid of multiples of `10 ^ k` that rounds to the number, the nearer one if
both neighbours do. -/
def onGrid? (m : Magnitude) (k : Int) : Option Nat :=
  let u := m.exponent - 2
  let a := 4 * m.significand
  let below := floorScaled a u k
  match roundsTo m below k, roundsTo m (below + 1) k with
  | true, false => some below
  | false, true => some (below + 1)
  | true, true =>
    -- the middle between the neighbours is compared with the number, both doubled
    if compareScaled (2 * below + 1) k (2 * a) u == .gt then some below else some (below + 1)
  | false, false => none

/-- The shortest decimal that rounds to the number: the first grid with a point that does,
starting from the place of the leading digit. A format needs fewer digits than its fraction has
bits, so one of the grids has such a point. -/
def shortest (format : BinaryFormat) (m : Magnitude) : Scaled :=
  let lead := leadingExponent (4 * m.significand) (m.exponent - 2)
  let grids := (List.range (format.fractionBits + 2)).map fun i => lead - Int.ofNat i
  match grids.findSome? fun k => (onGrid? m k).map fun n => (⟨n, k⟩ : Scaled) with
  | some d => d
  | none => ⟨m.significand, m.exponent⟩

/-! ### Positional notation -/

/-- A decimal that is not zero, written out in full. -/
def positional (d : Scaled) : List Char :=
  let all := Nat.toDigits 10 d.digits
  -- zeros at the end of the digits say nothing
  let digits := (all.reverse.dropWhile (· == '0')).reverse
  let exponent := d.exponent + Int.ofNat (all.length - digits.length)
  let places := (-exponent).toNat
  if places = 0 then
    digits ++ List.replicate exponent.toNat '0'
  else if digits.length ≤ places then
    ['0', '.'] ++ List.replicate (places - digits.length) '0' ++ digits
  else
    digits.take (digits.length - places) ++ ['.'] ++ digits.drop (digits.length - places)

/-- A number with its sign. -/
def signed (negative : Bool) (cs : List Char) : List Char := if negative then '-' :: cs else cs

/-- The number that the bits of a format stand for, written out in full. -/
def showBits (format : BinaryFormat) (bits : Nat) : List Char :=
  match format.decode bits with
  | .nan => ['N', 'a', 'N']
  | .infinite negative => signed negative ['i', 'n', 'f']
  | .zero negative => signed negative ['0']
  | .finite negative m => signed negative (positional (shortest format m))

end Decimal

end CallEffects
