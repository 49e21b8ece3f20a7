import CallEffects.Descriptor.Basic
import CallEffects.Opcode

/-!
# Errors

Everything that an operation of the library can refuse, as causes. The wording of each cause is
in `MalformedCall.message` and `Error.message` and nowhere else.

Left out is the line of the implementation that found an invoke malformed. In a full report, also in
one that is logged, the word `Malformed` and that line stand in front of the wording given here.

## Main definitions

* `MalformedCall` — why an instruction, or the arguments it passes, does not fit its method
* `Error` — every cause
* `Error.message` — the wording
-/

namespace CallEffects

/-- Why an invoke does not fit together. -/
inductive MalformedCall where
  /-- More registers are declared than the compact form has slots. -/
  | tooManyRegisters (declared : Nat)
  /-- A compact slot names a register beyond the four-bit field. -/
  | registerTooHigh (register : UInt8)
  /-- A range leaves the register file. -/
  | rangePastEnd (start : UInt16) (count : UInt8)
  /-- The opcode wants the other way of naming registers. -/
  | addressingMismatch (opcode : Opcode) (given : Addressing)
  /-- The declared parameters take another number of registers than are passed. -/
  | countMismatch (opcode : Opcode) (method : MethodRef) (passed needed : Nat)
  /-- More registers are passed than a frame can hold. -/
  | frameTooLarge (method : MethodRef) (passed : Nat)
  /-- There is no register for the instance. -/
  | missingInstance (method : MethodRef)
  /-- There is no register for a declared parameter. -/
  | missingArgument (method : MethodRef) (type : TypeDescriptor)
  /-- There is only one register for a wide parameter. -/
  | missingUpperHalf (method : MethodRef) (type : TypeDescriptor)
  /-- Registers are left over after the last declared parameter. -/
  | surplusRegisters (method : MethodRef)
  /-- Anything else, in words. Nothing in this library says so, but a handler may. -/
  | other (message : String)
deriving DecidableEq

/-- Everything that can be refused. -/
inductive Error where
  /-- An invoke does not fit together. -/
  | malformed (cause : MalformedCall)
  /-- A text is not the descriptor it should be. -/
  | invalidDescriptor (text : String)
  /-- A register lies outside its frame. -/
  | registerOutOfRange (register count : UInt16)
  /-- A method could not be emulated. -/
  | emulationFailed (descriptor cause : String)
deriving DecidableEq

/-- What is wrong with an invoke, in words. -/
def MalformedCall.message : MalformedCall → String
  | tooManyRegisters declared =>
    s!"Compact invoke declares {declared} registers, at most 5 are encodable"
  | registerTooHigh register =>
    s!"Compact invoke register v{register} exceeds the 4-bit register field"
  | rangePastEnd start count => s!"Range invoke v{start} + {count} runs past the register file"
  | addressingMismatch opcode given => s!"{opcode.mnemonic} cannot use {given.word} operands"
  | countMismatch opcode method passed needed =>
    s!"{opcode.mnemonic} {method.descriptor} passes {passed} registers, " ++
      s!"the declaration needs {needed}"
  | frameTooLarge method passed => s!"{method.descriptor} passes {passed} registers"
  | missingInstance method => s!"{method.descriptor} has no instance register"
  | missingArgument method type =>
    s!"{method.descriptor} is missing an argument for {type.text}"
  | missingUpperHalf method type =>
    s!"{method.descriptor} is missing the upper half of {type.text}"
  | surplusRegisters method => s!"{method.descriptor} passes more registers than it declares"
  | other message => message

/-- What was refused, in words. Of a malformed invoke this is only what is wrong with it, not where
that was found. -/
def Error.message : Error → String
  | malformed cause => cause.message
  | invalidDescriptor text => s!"Invalid descriptor - {text}"
  | registerOutOfRange register count =>
    s!"Register v{register} is out of range for a frame of {count} registers"
  | emulationFailed descriptor cause => s!"Emulation of {descriptor} failed: {cause}"

end CallEffects
