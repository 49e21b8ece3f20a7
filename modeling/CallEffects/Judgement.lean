import CallEffects.Frame
import CallEffects.Immutability

/-!
# Judging argument registers

A call that is not run may have changed every object that it was passed. A register keeps its
value only when the types of all arguments that it supplies are immutable.

## Main definitions

* `Judgement` — what becomes of one register
* `noteUse` — one more use of a register
* `judgeSlots` — what becomes of all registers that are passed
* `Frame.passedSlots` — the registers with the types under which they are passed
-/

namespace CallEffects

/-- What becomes of an argument register, and the type that decides it. -/
structure Judgement where
  /-- The caller's register. -/
  register : UInt16
  /-- The type under which it is passed. -/
  type : TypeDescriptor
  /-- It keeps its value. -/
  immutable : Bool
deriving DecidableEq, Repr

/-- Take one more use of a register into account. The first use decides its place; the first use
under a mutable type decides its type. -/
def noteUse (j : Judgement) : List Judgement → List Judgement
  | [] => [j]
  | k :: ks =>
    if k.register = j.register then
      if k.immutable && !j.immutable then j :: ks else k :: ks
    else k :: noteUse j ks

/-- What becomes of each register that is passed, given the registers and the types under which
they are passed. Every type is looked up in turn. -/
def judgeSlots (resolver : Resolver) (judged : List Judgement) :
    List (UInt16 × TypeDescriptor) → List Judgement × Resolver
  | [] => (judged, resolver)
  | (register, type) :: slots =>
    let (v, resolver) := resolver.verdict type
    judgeSlots resolver (noteUse ⟨register, type, v.immutable⟩ judged) slots

/-- The types of the parameters of a frame, with the caller's registers that supply them. -/
def Frame.passedSlots (callee : Frame) (registers : List UInt16) :
    List (UInt16 × TypeDescriptor) :=
  (List.zip (List.range' callee.parameterStart.toNat callee.parameterSize.toNat) registers)
    |>.filterMap fun (index, register) =>
      (callee.read? (UInt16.ofNat index) entryPoint).map fun store => (register, store.type)

end CallEffects
