import CallEffects.Analysis
import CallEffects.Callee
import CallEffects.Judgement

/-!
# The effect of a call

What a call does to the frame of its caller. A method with a handler is emulated, and only the
result of the caller changes. Any other method is approximated: its result is not known, and every
register whose object it may have changed loses its value.

## Main definitions

* `Event.processed`, `Event.exhausted`, `Event.failed`, `Event.deferred`, `Event.judged` — what is
  logged
* `Effect` — what a call leaves behind
* `Analysis.approximate`, `Analysis.returning` — the two effects
* `Analysis.dispatch` — the effect of a call
-/

namespace CallEffects

/-! ### What is logged -/

namespace Event

/-- An invoke was reached. -/
def processed (call : Invocation) : Event :=
  ⟨.info, .invokeProcessed, some call.method.descriptor, none,
   s!"{call.opcode.mnemonic} {call.method.descriptor}"⟩

/-- No further calls may be nested. -/
def exhausted (descriptor : String) : Event :=
  ⟨.warn, .depthExhausted, some descriptor, none,
   s!"Call depth exhausted at {descriptor}, treating it as opaque"⟩

/-- The handler of the target failed. Its error is worded by `Error.message`, so where a handler found
an invoke malformed is not told. -/
def failed (descriptor : String) (e : Error) : Event :=
  ⟨.warn, .emulationFailed, some descriptor, none,
   s!"Emulating {descriptor} failed ({e.message}), treating it as opaque"⟩

/-- The target is declared by the program, but not followed. -/
def deferred (descriptor : String) : Event :=
  ⟨.warn, .deferredKnown, some descriptor, none,
   s!"Found {descriptor} but holding off on executing it"⟩

/-- What becomes of an argument register. -/
def judged (descriptor : String) (j : Judgement) : Event :=
  if j.immutable then
    ⟨.fine, .parameterRetained, some descriptor, some j.register,
     s!"v{j.register} ({j.type.text}) is immutable and passed as a parameter, keeping its value"⟩
  else
    ⟨.fine, .parameterInvalidated, some descriptor, some j.register,
     s!"v{j.register} ({j.type.text}) is mutable and passed as a parameter, marking as unknown"⟩

end Event

/-! ### The effect of a call -/

/-- What a call leaves behind, whether it succeeded or not. -/
structure Effect where
  /-- What came of the call. -/
  outcome : Except Error Outcome
  /-- The frame of the caller afterwards. -/
  caller : Frame
  /-- The analysis afterwards. -/
  analysis : Analysis

namespace Analysis

/-- Record what becomes of an argument register, if the analysis was told to. -/
def recordJudged (a : Analysis) (descriptor : String) (j : Judgement) : Analysis :=
  if a.settings.logParameters then a.record (.judged descriptor j) else a

/-- Carry out the judgements in turn. -/
def settle (descriptor : String) (point : Nat) (a : Analysis) (caller : Frame)
    (outcome : Outcome) : List Judgement → Effect
  | [] => ⟨.ok outcome, caller, a⟩
  | j :: js =>
    if j.immutable then
      settle descriptor point (a.recordJudged descriptor j) caller
        { outcome with retained := outcome.retained ++ [j.register] } js
    else
      match caller.write j.register (.invalidated j.type) point with
      | .error e => ⟨.error e, caller, a⟩
      | .ok caller =>
        settle descriptor point (a.recordJudged descriptor j) caller
          { outcome with invalidated := outcome.invalidated ++ [j.register] } js

/-- The effect of a call that is not run. -/
def approximate (a : Analysis) (caller callee : Frame) (call : Invocation) (point : Nat)
    (disposition : Disposition) : Effect :=
  let result := if call.method.isVoid then none else some Store.callResult
  let caller := match result with
    | some store => caller.setResult store
    | none => caller
  let (judgements, resolver) := judgeSlots a.resolver [] (callee.passedSlots call.registers)
  settle call.method.descriptor point { a with resolver := resolver } caller
    { disposition := disposition, result := result } judgements

/-- The effect of a call that returned a store. -/
def returning (a : Analysis) (caller : Frame) (call : Invocation) (store : Store) :
    Effect :=
  if call.method.isVoid then ⟨.ok { disposition := .emulated }, caller, a⟩
  else
    ⟨.ok { disposition := .emulated, result := some store }, caller.setResult store, a⟩

/-- The effect of a call whose arguments were found, by its disposition. -/
def perform (a : Analysis) (caller callee : Frame) (call : Invocation) (point : Nat) :
    Effect :=
  let descriptor := call.method.descriptor
  match a.disposition caller descriptor with
  | .emulated =>
    match a.registry.emulate callee descriptor with
    | .ok store => a.returning caller call store
    | .error e =>
      (a.record (.failed descriptor e)).approximate caller callee call point .blackBox
  | .deferredKnown =>
    (a.record (.deferred descriptor)).approximate caller callee call point .deferredKnown
  | .blackBox => a.approximate caller callee call point .blackBox

/-- The first argument register that is not a register of the caller. -/
def firstOutside? (caller : Frame) (registers : List UInt16) : Option UInt16 :=
  registers.find? (caller.registerCount ≤ ·)

/-- The effect of a call on the frame of its caller. If an argument register is not one of the
caller's, the call is refused and only logged. -/
def dispatch (a : Analysis) (caller : Frame) (call : Invocation) (point : Nat) : Effect :=
  let a := a.record (.processed call)
  match firstOutside? caller call.registers with
  | some register =>
    ⟨.error (.registerOutOfRange register caller.registerCount), caller, a⟩
  | none =>
    match caller.callee call point with
    | .error e => ⟨.error e, caller, a⟩
    | .ok callee =>
      let a := if caller.depth = 0 then a.record (.exhausted call.method.descriptor) else a
      a.perform caller callee call point

end Analysis

end CallEffects
