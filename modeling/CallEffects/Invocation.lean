import CallEffects.Error

/-!
# Invocations

An invoke instruction names a method and the caller's registers that supply its arguments. The
registers come in one of two encodings; `Invocation.registers` is the list that either stands
for, and nothing after this module looks at the encoding again.

The conditions that make an instruction well formed are fields of the types, so an `Invocation`
passes as many registers as its method takes.

## Main definitions

* `CompactOperands`, `RangeOperands`, `Operands` — the two encodings
* `Invocation` — an instruction whose parts fit together
* `Invocation.make`, `Invocation.compact`, `Invocation.range` — the checks
* `Invocation.registers` — the argument registers, in order

## Main results

* `Invocation.length_registers` — as many as the method takes
-/

namespace CallEffects

/-! ### Registers named one by one -/

/-- Up to five registers, each in a field of four bits. The slots that are not in use are kept as
they are. -/
structure CompactOperands where
  /-- How many slots are in use. -/
  count : UInt8
  /-- All five slots. -/
  slots : Vector UInt8 5
  /-- No more slots are in use than there are. -/
  count_le : count.toNat ≤ 5
  /-- The slots in use fit their field. -/
  slots_le : ∀ r ∈ slots.toList.take count.toNat, r ≤ 15
deriving DecidableEq

namespace CompactOperands

/-- The encoding with the given count and slots. The count is checked before the slots. -/
def make (count : UInt8) (slots : Vector UInt8 5) : Except Error CompactOperands :=
  if hc : count.toNat ≤ 5 then
    match hs : (slots.toList.take count.toNat).find? (15 < ·) with
    | some r => .error (.malformed (.registerTooHigh r))
    | none =>
      .ok { count, slots, count_le := hc
            slots_le := fun r hr => by simpa using List.find?_eq_none.mp hs r hr }
  else
    .error (.malformed (.tooManyRegisters count.toNat))

/-- Up to five registers, padded to five slots with zeros. -/
def padded (registers : List UInt8) : Vector UInt8 5 :=
  Vector.ofFn fun i => registers.getD i 0

/-- The encoding that names exactly the given registers. -/
def ofRegisters (registers : List UInt8) : Except Error CompactOperands :=
  if registers.length ≤ 5 then make (UInt8.ofNat registers.length) (padded registers)
  else .error (.malformed (.tooManyRegisters registers.length))

/-- The registers named by the slots in use. -/
def registers (o : CompactOperands) : List UInt16 :=
  (o.slots.toList.take o.count.toNat).map (·.toUInt16)

@[simp] theorem length_registers (o : CompactOperands) :
    o.registers.length = o.count.toNat := by
  have := o.count_le
  simp [registers]
  omega

end CompactOperands

/-! ### A range of registers -/

/-- A first register and a count. -/
structure RangeOperands where
  /-- The first register. -/
  start : UInt16
  /-- How many registers there are. -/
  count : UInt8
  /-- The range stays inside the register file. -/
  end_le : start.toNat + count.toNat ≤ 65536
deriving DecidableEq

namespace RangeOperands

/-- The range of `count` registers from `start` on. -/
def make (start : UInt16) (count : UInt8) : Except Error RangeOperands :=
  if h : start.toNat + count.toNat ≤ 65536 then .ok ⟨start, count, h⟩
  else .error (.malformed (.rangePastEnd start count))

/-- The registers of the range, ascending. -/
def registers (o : RangeOperands) : List UInt16 :=
  (List.range o.count.toNat).map fun i => o.start + UInt16.ofNat i

@[simp] theorem length_registers (o : RangeOperands) :
    o.registers.length = o.count.toNat := by
  simp [registers]

end RangeOperands

/-! ### Either encoding -/

/-- The registers of an instruction, as encoded. -/
inductive Operands where
  /-- Named one by one. -/
  | compact (operands : CompactOperands)
  /-- A range. -/
  | range (operands : RangeOperands)
deriving DecidableEq

namespace Operands

/-- Which of the two encodings it is. -/
def addressing : Operands → Addressing
  | compact _ => .compact
  | range _ => .range

/-- How many registers are passed, the instance included. -/
def count : Operands → Nat
  | compact o => o.count.toNat
  | range o => o.count.toNat

/-- The registers that are passed, in order. -/
def registers : Operands → List UInt16
  | compact o => o.registers
  | range o => o.registers

@[simp] theorem length_registers (o : Operands) : o.registers.length = o.count := by
  cases o <;> simp [registers, count]

end Operands

/-! ### Instructions -/

/-- The number of registers that a call must pass: those of the declared parameters, and one for
the instance unless the call is static. -/
def MethodRef.registersNeeded (m : MethodRef) (isStatic : Bool) : Nat :=
  m.parameterRegisters + if isStatic then 0 else 1

/-- An invoke instruction whose parts fit together. -/
structure Invocation where
  /-- What the instruction does. -/
  opcode : Opcode
  /-- The argument registers, as encoded. -/
  operands : Operands
  /-- The method that is called. -/
  method : MethodRef
  /-- The registers are encoded as the opcode wants. -/
  addressing_eq : operands.addressing = opcode.addressing
  /-- As many registers are passed as the method takes. -/
  count_eq : operands.count = method.registersNeeded opcode.isStatic
deriving DecidableEq

namespace Invocation

/-- The instruction with the given parts. The encoding is checked before the count. -/
def make (opcode : Opcode) (operands : Operands) (method : MethodRef) :
    Except Error Invocation :=
  if ha : operands.addressing = opcode.addressing then
    if hc : operands.count = method.registersNeeded opcode.isStatic then
      .ok ⟨opcode, operands, method, ha, hc⟩
    else
      .error (.malformed (.countMismatch opcode method operands.count
        (method.registersNeeded opcode.isStatic)))
  else
    .error (.malformed (.addressingMismatch opcode operands.addressing))

/-- The instruction that names its registers one by one. -/
def compact (opcode : Opcode) (registers : List UInt8) (method : MethodRef) :
    Except Error Invocation := do
  let operands ← CompactOperands.ofRegisters registers
  make opcode (.compact operands) method

/-- The instruction that passes a range of registers. -/
def range (opcode : Opcode) (start : UInt16) (count : UInt8) (method : MethodRef) :
    Except Error Invocation := do
  let operands ← RangeOperands.make start count
  make opcode (.range operands) method

/-- The call passes no instance. -/
def isStatic (i : Invocation) : Bool := i.opcode.isStatic

/-- The argument registers, in order. -/
def registers (i : Invocation) : List UInt16 := i.operands.registers

/-- An invocation passes as many registers as its method takes. -/
theorem length_registers (i : Invocation) :
    i.registers.length = i.method.registersNeeded i.isStatic := by
  rw [registers, Operands.length_registers, i.count_eq, isStatic]

end Invocation

end CallEffects
