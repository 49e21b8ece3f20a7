import CallEffects.Frame
import CallEffects.Invocation

/-!
# The frame of a callee

What a called method finds in its registers: the instance, if there is one, as the caller knows
it, then the arguments under their declared types. All registers of the frame are parameters,
written at the entry of the method.

## Main definitions

* `Frame.instanceStore`, `Frame.parameterStores`, `Frame.argumentStores` — what is passed
* `Frame.bindAll` — writing it
* `Frame.callee` — the frame
-/

namespace CallEffects

namespace Frame

/-- What the caller knows of the register that holds the instance. If it knows nothing, the
instance is of the class whose method is called. -/
def instanceStore (caller : Frame) (owner : TypeDescriptor) (register : UInt16) (point : Nat) :
    Store :=
  match caller.read? register point with
  | some store => store
  | none => .unanalyzed owner

/-- What is passed for the declared parameters: the value of the first register of each, under
the declared type, twice for a wide one. -/
def parameterStores (caller : Frame) (method : MethodRef) (point : Nat) :
    List TypeDescriptor → List UInt16 → Except Error (List Store)
  | [], [] => .ok []
  | [], _ :: _ => .error (.malformed (.surplusRegisters method))
  | type :: _, [] => .error (.malformed (.missingArgument method type))
  | type :: types, register :: registers =>
    let store : Store := ⟨type, caller.value register point⟩
    if type.isWide then
      match registers with
      | [] => .error (.malformed (.missingUpperHalf method type))
      | _ :: registers =>
        (parameterStores caller method point types registers).map (store :: store :: ·)
    else
      (parameterStores caller method point types registers).map (store :: ·)

/-- What is passed in each argument register. -/
def argumentStores (caller : Frame) (method : MethodRef) (isStatic : Bool) (point : Nat)
    (registers : List UInt16) : Except Error (List Store) :=
  if isStatic then caller.parameterStores method point method.params registers
  else
    match registers with
    | [] => .error (.malformed (.missingInstance method))
    | register :: registers =>
      (caller.parameterStores method point method.params registers).map
        (caller.instanceStore method.owner register point :: ·)

/-- The frame after stores are written to its parameters, from the given index on. -/
def bindAll (f : Frame) (index : UInt16) : List Store → Except Error Frame
  | [] => .ok f
  | store :: stores => do
    let f ← f.bindParameter index store
    f.bindAll (index + 1) stores

/-- One call less may be nested, unless none may be any more. -/
def calleeDepth (caller : Frame) : UInt32 :=
  if caller.depth = 0 then 0 else caller.depth - 1

/-- The frame in which a called method starts. -/
def callee (caller : Frame) (call : Invocation) (point : Nat) : Except Error Frame :=
  let registers := call.registers
  if 65535 < registers.length then
    .error (.malformed (.frameTooLarge call.method registers.length))
  else do
    let stores ← caller.argumentStores call.method call.isStatic point registers
    let count := UInt16.ofNat registers.length
    (new count count caller.calleeDepth).bindAll 0 stores

end Frame

end CallEffects
