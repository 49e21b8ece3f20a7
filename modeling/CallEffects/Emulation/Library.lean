import CallEffects.Decimal
import CallEffects.Emulation.Registry

/-!
# Emulated library methods

Handlers for methods of the platform's library that depend on nothing but their arguments.

## Main definitions

* `Library.integerText`, `Library.stringLength`, `Library.parseInteger`, `Library.boxInteger`,
  `Library.absolute` — the handlers
* `Library.methods` — under the methods that they stand for
* `Registry.library` — all of them, registered
-/

namespace CallEffects

namespace Library

/-- The `String` class. -/
def stringClass : TypeDescriptor := ⟨"Ljava/lang/String;"⟩

/-- The `Integer` class. -/
def integerClass : TypeDescriptor := ⟨"Ljava/lang/Integer;"⟩

/-- The `Math` class. -/
def mathClass : TypeDescriptor := ⟨"Ljava/lang/Math;"⟩

/-- The primitive type of 32-bit integers. -/
def intType : TypeDescriptor := ⟨"I"⟩

/-- An integer as a decimal string. -/
def integerText : Handler := fun c =>
  match (c.argument 0).asInt? with
  | some v => .ok (.string (String.ofList (Decimal.ofInt v.toInt)))
  | none => .ok .undetermined

/-- The number of UTF-16 code units of a character. -/
def utf16Size (c : Char) : Nat := if c.toNat < 0x10000 then 1 else 2

/-- The number of UTF-16 code units of a string. -/
def utf16Length (s : String) : Nat := s.toList.foldr (utf16Size · + ·) 0

/-- The length of a string, in UTF-16 code units. -/
def stringLength : Handler := fun c =>
  match c.argument 0 with
  | .string s =>
    if utf16Length s ≤ 2147483647 then .ok (.int (Int32.ofNat (utf16Length s)))
    else .error (c.failure "string length exceeds int range")
  | .null => .error (c.failure "null receiver")
  | _ => .ok .undetermined

/-- The integer that a string stands for. -/
def parseInteger : Handler := fun c =>
  match c.argument 0 with
  | .string s =>
    match Decimal.toInt32? s.toList with
    | some v => .ok (.int v)
    | none => .error (c.failure ("For input string: \"" ++ s ++ "\""))
  | .null => .error (c.failure "null input")
  | _ => .ok .undetermined

/-- An integer as an object. -/
def boxInteger : Handler := fun c =>
  match (c.argument 0).asInt? with
  | some v => .ok (.int v)
  | none => .ok .undetermined

/-- The magnitude of an integer. That of the least integer is itself. -/
def absolute : Handler := fun c =>
  match (c.argument 0).asInt? with
  | some v => .ok (.int v.abs)
  | none => .ok .undetermined

/-- The methods with their handlers. -/
def methods : List (MethodRef × Handler) :=
  [(⟨stringClass, "valueOf", [intType], stringClass⟩, integerText),
   (⟨stringClass, "length", [], intType⟩, stringLength),
   (⟨integerClass, "parseInt", [stringClass], intType⟩, parseInteger),
   (⟨integerClass, "valueOf", [intType], integerClass⟩, boxInteger),
   (⟨mathClass, "abs", [intType], intType⟩, absolute)]

end Library

/-- The registry of the emulated library methods. -/
def Registry.library : Registry :=
  Library.methods.foldl (fun r (method, handler) => r.insert method handler) .empty

end CallEffects
