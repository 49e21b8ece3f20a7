import Std.Data.TreeMap
import CallEffects.Descriptor.Parser
import CallEffects.Frame

/-!
# The emulation registry

A handler computes what a method returns from the frame that the method would run in. It may also
decline, which is an answer, or fail, which is an error. A registry has the handlers of the methods
that can be emulated, by the descriptors of these methods. A second registration for a method
replaces the first.

## Main definitions

* `Call` — a method and the frame that it would run in
* `Call.argument`, `Call.failure` — what a handler reads and how it fails
* `Handler` — a computation of the returned value
* `Handler.const`, `Handler.argument`, … — handlers to build on
* `Registry` — handlers by descriptor
* `Registry.insert`, `Registry.register` — adding one
* `Registry.canEmulate`, `Registry.emulate` — using one
-/

namespace CallEffects

/-! ### Handlers -/

/-- What a handler is given. -/
structure Call where
  /-- The frame that the method would run in. -/
  frame : Frame
  /-- The method under which the handler was registered. -/
  method : MethodRef

namespace Call

/-- The value of the argument register of the given index, the instance being the first. -/
def argument (c : Call) (index : UInt16) : Value :=
  c.frame.value (c.frame.parameterStart + index) entryPoint

/-- The error that a handler fails with. -/
def failure (c : Call) (cause : String) : Error := .emulationFailed c.method.descriptor cause

end Call

/-- Computes what a method returns. -/
abbrev Handler := Call → Except Error Value

/-- What a handler answers when it cannot tell: the result of a call that was not run. -/
def Value.undetermined : Value := .unknown .callResult

namespace Handler

/-- Answers with the same value every time. -/
def const (v : Value) : Handler := fun _ => .ok v

/-- Answers with one of the arguments. -/
def argument (index : UInt16) : Handler := fun c => .ok (c.argument index)

/-- Never can tell. -/
def undetermined : Handler := fun _ => .ok .undetermined

/-- Fails every time. -/
def failing (cause : String) : Handler := fun c => .error (c.failure cause)

/-- The exclusive or of the first two arguments, if both are integers. -/
def exclusiveOr : Handler := fun c =>
  match (c.argument 0).asInt?, (c.argument 1).asInt? with
  | some a, some b => .ok (.int (a ^^^ b))
  | _, _ => .ok .undetermined

/-- Answers with the owner of the method that the first argument describes, if it is a string. -/
def ownerOfArgument : Handler := fun c =>
  match c.argument 0 with
  | .string s => do
    let m ← MethodRef.parse s
    return .string m.owner.text
  | _ => .ok .undetermined

/-- Answers with a description of the call: the method, how many registers its frame has, how
many of them are parameters, and how many calls may be nested below it. -/
def describe : Handler := fun c =>
  .ok (.string (" ".intercalate
    [c.method.descriptor, toString c.frame.registerCount, toString c.frame.parameterSize,
     toString c.frame.depth]))

end Handler

/-! ### Registries -/

/-- A handler and the method that it stands for. -/
structure Registration where
  /-- The method. -/
  method : MethodRef
  /-- Its handler. -/
  handler : Handler

/-- Handlers by the descriptors of their methods. -/
structure Registry where
  /-- The registrations. -/
  entries : Std.TreeMap String Registration

namespace Registry

/-- The registry without handlers. -/
def empty : Registry := ⟨∅⟩

/-- The registry with a handler for one more method. -/
def insert (r : Registry) (method : MethodRef) (handler : Handler) : Registry :=
  ⟨r.entries.insert method.descriptor ⟨method, handler⟩⟩

/-- The registry with a handler for the method of the given text. -/
def register (r : Registry) (text : String) (handler : Handler) : Except Error Registry := do
  let method ← MethodRef.parse text
  return r.insert method handler

/-- The number of methods that can be emulated. -/
def size (r : Registry) : Nat := r.entries.size

/-- No method can be emulated. -/
def isEmpty (r : Registry) : Bool := r.entries.isEmpty

/-- The descriptors of the methods that can be emulated, ascending. -/
def descriptors (r : Registry) : List String := r.entries.keys

/-- A method can be emulated. -/
def canEmulate (r : Registry) (descriptor : String) : Bool := r.entries.contains descriptor

/-- What a method returns when it is run in the given frame, typed as the method declares. -/
def emulate (r : Registry) (frame : Frame) (descriptor : String) : Except Error Store :=
  match r.entries[descriptor]? with
  | none => .error (.emulationFailed descriptor "no handler registered")
  | some entry =>
    match entry.handler ⟨frame, entry.method⟩ with
    | .ok v => .ok ⟨entry.method.returns, v⟩
    | .error e => .error e

end Registry

end CallEffects
