/-!
# Invoke opcodes

Ten opcodes invoke a method: five ways to find the method that runs, each with the argument
registers named one by one or as a contiguous range.

## Main definitions

* `CallKind`, `Addressing`, `Opcode` — the two choices and their pair
* `Opcode.byte`, `Opcode.mnemonic` — its two encodings
* `Opcode.ofByte?`, `Opcode.ofMnemonic?` — and back

## Main results

* `Opcode.ofByte?_byte`, `Opcode.ofMnemonic?_mnemonic` — both encodings can be read back
-/

namespace CallEffects

/-- How the method that runs is found. -/
inductive CallKind where
  /-- Looked up in the class of the instance. -/
  | virtual
  /-- Looked up above the calling class. -/
  | super
  /-- A constructor or private method, run as named. -/
  | direct
  /-- A method without an instance. -/
  | static
  /-- Looked up through an interface. -/
  | interface
deriving DecidableEq, Repr

/-- How an instruction names its argument registers. -/
inductive Addressing where
  /-- Up to five registers, one by one. -/
  | compact
  /-- A first register and a count. -/
  | range
deriving DecidableEq, Repr

/-- An opcode that invokes a method. -/
structure Opcode where
  /-- How the method that runs is found. -/
  kind : CallKind
  /-- How the argument registers are named. -/
  addressing : Addressing
deriving DecidableEq, Repr

namespace CallKind

/-- The five kinds, in the order of their opcodes. -/
def all : List CallKind := [.virtual, .super, .direct, .static, .interface]

/-- The place of a kind among the five. -/
def ordinal : CallKind → UInt8
  | virtual => 0
  | super => 1
  | direct => 2
  | static => 3
  | interface => 4

/-- The word for a kind in a mnemonic. -/
def word : CallKind → String
  | virtual => "virtual"
  | super => "super"
  | direct => "direct"
  | static => "static"
  | interface => "interface"

end CallKind

/-- The word for an addressing mode. -/
def Addressing.word : Addressing → String
  | compact => "compact"
  | range => "range"

namespace Opcode

/-- The ten opcodes, in the order of their bytes. -/
def all : List Opcode :=
  CallKind.all.map (⟨·, .compact⟩) ++ CallKind.all.map (⟨·, .range⟩)

/-- The call passes no instance. -/
def isStatic (o : Opcode) : Bool := o.kind == .static

/-- The byte that opens the instruction. -/
def byte (o : Opcode) : UInt8 :=
  match o.addressing with
  | .compact => 0x6e + o.kind.ordinal
  | .range => 0x74 + o.kind.ordinal

/-- The name of the opcode in a listing. -/
def mnemonic (o : Opcode) : String :=
  match o.addressing with
  | .compact => "invoke-" ++ o.kind.word
  | .range => "invoke-" ++ o.kind.word ++ "/range"

/-- The opcode that a byte stands for, if it invokes a method. -/
def ofByte? (b : UInt8) : Option Opcode := all.find? (·.byte == b)

/-- The opcode of a given name. -/
def ofMnemonic? (s : String) : Option Opcode := all.find? (·.mnemonic == s)

theorem ofByte?_byte (o : Opcode) : ofByte? o.byte = some o := by
  obtain ⟨k, a⟩ := o
  cases k <;> cases a <;> decide

theorem ofMnemonic?_mnemonic (o : Opcode) : ofMnemonic? o.mnemonic = some o := by
  obtain ⟨k, a⟩ := o
  cases k <;> cases a <;> decide

end Opcode

end CallEffects
