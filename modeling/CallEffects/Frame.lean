import CallEffects.Error
import CallEffects.History

/-!
# Frames

The registers of one running method, each with its history. The parameters of the method are the
last registers of the frame. Beside them a frame holds how many calls may still be nested below
it, the result of the last call that returned one, and what the method itself returns. How many
calls may be nested below a method that is analysed from its start is one of the settings of an
analysis, which are defined here for that reason.

## Main definitions

* `Settings` — how deep calls may nest, whether verdicts are kept, and how much is logged
* `Frame` — the registers of a method
* `Frame.new` — a frame in which nothing is written
* `Frame.write`, `Frame.bindParameter` — writing a register, writing a parameter
* `Frame.read?`, `Frame.value` — what is in effect at a point

## Main results

* `Frame.toNat_registerCount` — the register count is the size of the register file
* `Frame.toNat_parameterStart` — the parameters end where the frame ends
* `Frame.write_eq_error` — a write outside the frame is refused
* `Frame.history_write` — a write changes the history of its own register and of no other
-/

namespace CallEffects

/-! ### Settings -/

/-- What an analysis is told before it starts. -/
structure Settings where
  /-- How many calls may be nested below a method that is analysed from its start. -/
  callDepth : UInt32 := 64
  /-- Keep the immutability verdict of each type once it is found. -/
  keepVerdicts : Bool := true
  /-- Log what becomes of each argument register. -/
  logParameters : Bool := true
deriving DecidableEq, Repr, Inhabited

namespace Settings

/-- Nothing is logged about argument registers. -/
def quiet : Settings := { logParameters := false }

/-- Only the calls of the analysed method itself are followed. -/
def shallow : Settings := { callDepth := 1 }

end Settings

/-! ### Frames -/

/-- The point at which the parameters of a method are written. -/
def entryPoint : Nat := 0

/-- The registers of one running method. -/
@[ext] structure Frame where
  /-- One history for each register. -/
  registers : Array History
  /-- How many of the registers, counted from the last, are parameters. -/
  parameterSize : UInt16
  /-- How many calls may be nested below this one. -/
  depth : UInt32
  /-- What the last call returned. -/
  result : Option Store
  /-- What the method itself returns. -/
  returned : Option Store
  /-- Every register has a number of 16 bits. -/
  size_lt : registers.size < 65536
  /-- The parameters are registers of the frame. -/
  parameterSize_le : parameterSize.toNat ≤ registers.size
deriving DecidableEq

namespace Frame

/-- A frame of `count` registers in which nothing is written. More parameters than registers are
taken to be all registers. -/
def new (count parameters : UInt16) (depth : UInt32) : Frame where
  registers := Array.replicate count.toNat History.empty
  parameterSize := min parameters count
  depth := depth
  result := none
  returned := none
  size_lt := by simpa using count.toNat_lt
  parameterSize_le := by
    rw [Array.size_replicate, ← UInt16.le_iff_toNat_le]
    by_cases h : parameters ≤ count <;> simp [min, h]

/-- A frame for a method that is analysed from its start. -/
def forMethod (count parameters : UInt16) (settings : Settings) : Frame :=
  new count parameters settings.callDepth

/-! ### Outline -/

/-- The number of registers. -/
def registerCount (f : Frame) : UInt16 := UInt16.ofNat f.registers.size

/-- The first parameter register. -/
def parameterStart (f : Frame) : UInt16 := f.registerCount - f.parameterSize

/-- The history of a register, empty for one outside the frame. -/
def history (f : Frame) (register : UInt16) : History :=
  f.registers.getD register.toNat History.empty

@[simp] theorem toNat_registerCount (f : Frame) :
    f.registerCount.toNat = f.registers.size := by
  rw [registerCount, UInt16.toNat_ofNat_of_lt' f.size_lt]

/-- The parameters end where the frame ends. -/
theorem toNat_parameterStart (f : Frame) :
    f.parameterStart.toNat = f.registers.size - f.parameterSize.toNat := by
  have hle : f.parameterSize ≤ f.registerCount := by
    rw [UInt16.le_iff_toNat_le, toNat_registerCount]
    exact f.parameterSize_le
  rw [parameterStart, UInt16.toNat_sub_of_le _ _ hle, toNat_registerCount]

/-! ### Reading -/

/-- The store in effect for a register at a point. A register outside the frame has none. -/
def read? (f : Frame) (register : UInt16) (point : Nat) : Option Store :=
  (f.history register).read? point

/-- The value in effect for a register at a point. -/
def value (f : Frame) (register : UInt16) (point : Nat) : Value :=
  match f.read? register point with
  | some store => store.value
  | none => .unknown .unanalyzed

/-! ### Writing -/

/-- The frame after a store is written to a register at a point. -/
def write (f : Frame) (register : UInt16) (store : Store) (point : Nat) : Except Error Frame :=
  if h : register.toNat < f.registers.size then
    .ok { f with
          registers := f.registers.set register.toNat ((f.history register).write point store) h
          size_lt := by simpa using f.size_lt
          parameterSize_le := by simpa using f.parameterSize_le }
  else
    .error (.registerOutOfRange register f.registerCount)

theorem history_eq_empty {f : Frame} {register : UInt16} (h : f.registers.size ≤ register.toNat) :
    f.history register = .empty := by
  rw [history, Array.getD_eq_getD_getElem?, Array.getElem?_eq_none h]
  rfl

/-- A write outside the frame is refused. -/
theorem write_eq_error {f : Frame} {register : UInt16} (store : Store) (point : Nat)
    (h : f.registers.size ≤ register.toNat) :
    f.write register store point = .error (.registerOutOfRange register f.registerCount) := by
  rw [write, dif_neg (by omega)]

/-- A write inside the frame succeeds. -/
theorem write_eq_ok {f : Frame} {register : UInt16} (store : Store) (point : Nat)
    (h : register.toNat < f.registers.size) : ∃ g, f.write register store point = .ok g := by
  rw [write, dif_pos h]
  exact ⟨_, rfl⟩

/-- A write changes the history of its own register and of no other. -/
theorem history_write {f g : Frame} {register : UInt16} {store : Store} {point : Nat}
    (h : f.write register store point = .ok g) (r : UInt16) :
    g.history r = if r = register then (f.history r).write point store else f.history r := by
  rw [write] at h
  split at h
  · rename_i hlt
    obtain rfl := Except.ok.inj h
    simp only [history, Array.getD_eq_getD_getElem?, Array.getElem?_set]
    by_cases hr : r = register
    · subst hr
      simp [hlt]
    · have hne : register.toNat ≠ r.toNat := fun hc => hr (UInt16.toNat_inj.mp hc.symm)
      rw [if_neg hne, if_neg hr]
  · exact nomatch h

/-- A write changes nothing else of the frame. -/
theorem outline_write {f g : Frame} {register : UInt16} {store : Store} {point : Nat}
    (h : f.write register store point = .ok g) :
    g.registers.size = f.registers.size ∧ g.parameterSize = f.parameterSize ∧
      g.depth = f.depth ∧ g.result = f.result ∧ g.returned = f.returned := by
  rw [write] at h
  split at h
  · obtain rfl := Except.ok.inj h
    simp
  · exact nomatch h

/-- The sum of two register numbers, or the last register if there is no such register. -/
def addSaturating (a b : UInt16) : UInt16 := UInt16.ofNat (min (a.toNat + b.toNat) 65535)

/-- The frame after a store is written to the parameter of the given index, at the entry of the
method. -/
def bindParameter (f : Frame) (index : UInt16) (store : Store) : Except Error Frame :=
  if index < f.parameterSize then f.write (f.parameterStart + index) store entryPoint
  else .error (.registerOutOfRange (addSaturating f.parameterStart index) f.registerCount)

/-- The frame after a call has returned a store. -/
def setResult (f : Frame) (store : Store) : Frame := { f with result := some store }

/-- The frame after the method itself has returned a store. -/
def setReturned (f : Frame) (store : Store) : Frame := { f with returned := some store }

end Frame

end CallEffects
