import CallEffects.Binary

/-!
# Values

What a register may hold: a constant of one of Dalvik's types, the null reference, or nothing
that is known, with the reason why it is not known.

Floating-point constants are kept as their bits, so that two values are equal exactly when they
are the same constant. The comparison in which a NaN differs from itself and the two zeros agree
is `Value.sameConstant`.

## Main definitions

* `Origin` — why a value is not known
* `Value` — what a register may hold
* `Value.asInt?` — the value as an `int`, when it widens to one
* `Value.sameConstant` — equality of the numbers that values stand for
-/

namespace CallEffects

/-- Why a value is not known. -/
inductive Origin where
  /-- Nothing was ever written. -/
  | unanalyzed
  /-- It was returned by a call that was not run. -/
  | callResult
  /-- It was passed to a call that may have changed it. -/
  | invalidated
deriving DecidableEq, Repr

/-- What a register may hold. -/
inductive Value where
  /-- A truth value. -/
  | boolean (value : Bool)
  /-- An integer of 8 bits. -/
  | byte (value : Int8)
  /-- An integer of 16 bits. -/
  | short (value : Int16)
  /-- A UTF-16 code unit. -/
  | char (unit : UInt16)
  /-- An integer of 32 bits. -/
  | int (value : Int32)
  /-- An integer of 64 bits. -/
  | long (value : Int64)
  /-- A binary32 number, by its bits. -/
  | float (bits : UInt32)
  /-- A binary64 number, by its bits. -/
  | double (bits : UInt64)
  /-- A string constant. -/
  | string (text : String)
  /-- The null reference. -/
  | null
  /-- A value that is not known. -/
  | unknown (origin : Origin)
deriving DecidableEq, Repr, Inhabited

namespace Value

/-- The reason why the value is not known, if it is not. -/
def origin? : Value → Option Origin
  | unknown origin => some origin
  | _ => none

/-- The value is known. -/
def isKnown (v : Value) : Bool := v.origin?.isNone

/-- The value is not known. -/
def isUnknown (v : Value) : Bool := v.origin?.isSome

/-- The value as an `int`: narrower integers, code units and truth values widen to it. -/
def asInt? : Value → Option Int32
  | int v => some v
  | short v => some v.toInt32
  | byte v => some v.toInt32
  | char u => some u.toUInt32.toInt32
  | boolean b => some (if b then 1 else 0)
  | _ => none

/-- The text of a string constant. -/
def asString? : Value → Option String
  | string s => some s
  | _ => none

/-! ### Comparing constants -/

/-- Equality of values, in which floating-point constants are compared as numbers. -/
def sameConstant : Value → Value → Bool
  | float a, float b => binary32.sameNumber a.toNat b.toNat
  | double a, double b => binary64.sameNumber a.toNat b.toNat
  | a, b => a == b

end Value

end CallEffects
