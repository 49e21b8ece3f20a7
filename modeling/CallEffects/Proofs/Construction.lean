import CallEffects.Invocation

/-!
# Which instructions can be put together

An instruction is put together from an opcode, a method and its registers, which are given one by
one, as raw slots of which some are in use, or as a range. Three things can go wrong: the registers
do not fit their encoding, the opcode wants the other encoding, or the method takes another number of
registers. They are looked at in this order, and the first that went wrong is reported.

If nothing went wrong, the instruction is read back as the registers that were given. Register
numbers are compared as natural numbers here: a range may end with the last register there is, and
the number behind it has no sixteen bits.

## Main definitions

* `Opcode.registersTaken` — how many registers a call of a method passes
* `CompactOperands.fault?` — why registers do not fit the slots
* `CompactOperands.filled` — the slots in use, read from the last to the first
* `Invocation.ofSlots` — an instruction from raw slots
* `Invocation.Checks` — what comes of putting an instruction together

## Main results

* `CompactOperands.fillFrom_eq`, `CompactOperands.filled_eq` — in which order slots are read has no
  effect
* `RangeOperands.toNat_registers` — a range does not wrap around
* `Invocation.compact_checks`, `Invocation.slots_checks`, `Invocation.range_checks` — the three ways
* `Invocation.construction_checks` — all of this together
-/

namespace CallEffects

/-! ### How many registers a call takes -/

/-- The number of registers that a call of a method passes: two for a long or a double and one for
any other parameter, and one for the instance unless the call is static. -/
def Opcode.registersTaken (o : Opcode) (m : MethodRef) : Nat :=
  m.params.foldr (fun t n => (if t.text = "J" ∨ t.text = "D" then 2 else 1) + n) 0 +
    if o.kind = .static then 0 else 1

theorem TypeDescriptor.width_eq (t : TypeDescriptor) :
    t.width = if t.text = "J" ∨ t.text = "D" then 2 else 1 := by
  simp only [width, isWide, Bool.or_eq_true, beq_iff_eq]

theorem MethodRef.registersNeeded_eq (o : Opcode) (m : MethodRef) :
    m.registersNeeded o.isStatic = o.registersTaken m := by
  simp only [registersNeeded, parameterRegisters, TypeDescriptor.width_eq, Opcode.registersTaken,
    Opcode.isStatic, beq_iff_eq]

/-! ### Registers named one by one -/

namespace CompactOperands

/-- Why registers do not fit the slots: more are declared than there are slots, or else the first one
that does not fit its field. -/
def fault? (declared : Nat) (registers : List UInt8) : Option MalformedCall :=
  if 5 < declared then some (.tooManyRegisters declared)
  else (registers.find? (15 < ·)).map .registerTooHigh

/-- Slots that fit are encoded as they are. -/
theorem make_eq_ok {count : UInt8} {slots : Vector UInt8 5} (hcount : count.toNat ≤ 5)
    (hslots : ∀ r ∈ slots.toList.take count.toNat, r ≤ 15) :
    make count slots = .ok ⟨count, slots, hcount, hslots⟩ := by
  rw [make, dif_pos hcount]
  split
  · rename_i r hr
    have hhigh : 15 < r := by simpa using List.find?_some hr
    exact absurd (hslots r (List.mem_of_find?_eq_some hr)) (UInt8.not_le.mpr hhigh)
  · rfl

/-- Slots that do not fit are refused. -/
theorem make_eq_error {count : UInt8} {slots : Vector UInt8 5}
    (h : ¬ (count.toNat ≤ 5 ∧ ∀ r ∈ slots.toList.take count.toNat, r ≤ 15)) :
    ∃ cause, fault? count.toNat (slots.toList.take count.toNat) = some cause ∧
      make count slots = .error (.malformed cause) := by
  by_cases hcount : count.toNat ≤ 5
  · rw [make, dif_pos hcount, fault?, if_neg (by omega)]
    split
    · rename_i r hr
      exact ⟨.registerTooHigh r, by rw [hr, Option.map_some], rfl⟩
    · rename_i hnone
      refine absurd ⟨hcount, fun r hr => ?_⟩ h
      simpa using List.find?_eq_none.mp hnone r hr
  · rw [make, dif_neg hcount, fault?, if_pos (by omega)]
    exact ⟨_, rfl, rfl⟩

/-- Registers that were padded are the first slots. -/
theorem take_padded {registers : List UInt8} (h : registers.length ≤ 5) :
    (padded registers).toList.take registers.length = registers := by
  refine List.ext_getElem (by simp [padded]; omega) fun i _ hi => ?_
  simp [padded, List.getElem?_eq_getElem hi]

theorem toNat_registers (o : CompactOperands) :
    o.registers.map (·.toNat) = (o.slots.toList.take o.count.toNat).map (·.toNat) := by
  rw [registers, List.map_map]
  refine List.map_congr_left fun r _ => ?_
  rw [Function.comp_apply, UInt8.toNat_toUInt16]

/-! #### Slots that are read from the last to the first -/

/-- The register in a slot. -/
def slot (o : CompactOperands) : Nat → UInt8
  | 4 => o.slots[4]
  | 3 => o.slots[3]
  | 2 => o.slots[2]
  | 1 => o.slots[1]
  | _ => o.slots[0]

/-- Each of the first `k` places of `result` gets the register of its slot, the last place first. -/
def fillFrom (o : CompactOperands) : Nat → List UInt16 → List UInt16
  | 0, result => result
  | k + 1, result => o.fillFrom k (result.set k (o.slot k).toUInt16)

/-- The registers named by the slots in use, read from the last slot to the first. -/
def filled (o : CompactOperands) : List UInt16 :=
  o.fillFrom o.count.toNat (List.replicate o.count.toNat 0)

theorem slot_eq (o : CompactOperands) {k : Nat} (hk : k < 5) :
    o.slots.toList[k]? = some (o.slot k) := by
  rw [Vector.getElem?_toList, Vector.getElem?_eq_getElem hk, Option.some.injEq]
  match k with
  | 0 | 1 | 2 | 3 | 4 => rfl

/-- The places from `k` on keep what they hold. -/
theorem fillFrom_eq (o : CompactOperands) {k : Nat} (hk : k ≤ 5) {result : List UInt16}
    (hlength : k ≤ result.length) :
    o.fillFrom k result = (o.slots.toList.take k).map (·.toUInt16) ++ result.drop k := by
  induction k generalizing result with
  | zero => rfl
  | succ k ih =>
    have hset : (result.set k (o.slot k).toUInt16).drop k =
        (o.slot k).toUInt16 :: result.drop (k + 1) := by
      rw [List.drop_set, if_neg (Nat.lt_irrefl k), Nat.sub_self,
        List.drop_eq_getElem_cons (by omega), List.set_cons_zero]
    rw [fillFrom, ih (by omega) (by rw [List.length_set]; omega), hset, List.take_add_one,
      slot_eq o hk]
    simp

/-- In which order slots are read has no effect. -/
theorem filled_eq (o : CompactOperands) : o.filled = o.registers := by
  rw [filled, o.fillFrom_eq o.count_le (by simp), registers]
  simp

end CompactOperands

/-! ### A range of registers -/

namespace RangeOperands

/-- A range does not wrap around. -/
theorem toNat_registers (o : RangeOperands) :
    o.registers.map (·.toNat) = List.range' o.start.toNat o.count.toNat := by
  rw [registers, List.map_map, List.range'_eq_map_range]
  refine List.map_congr_left fun i hi => ?_
  have hend := o.end_le
  have hcount : i < o.count.toNat := List.mem_range.mp hi
  have hsmall : i < 65536 := by omega
  rw [Function.comp_apply, UInt16.toNat_add, UInt16.toNat_ofNat_of_lt' hsmall,
    Nat.mod_eq_of_lt (by omega)]

end RangeOperands

/-! ### Instructions -/

namespace Invocation

/-- The instruction whose registers are in the first `count` slots. -/
def ofSlots (opcode : Opcode) (count : UInt8) (slots : Vector UInt8 5) (method : MethodRef) :
    Except Error Invocation := do
  let operands ← CompactOperands.make count slots
  make opcode (.compact operands) method

/-- What comes of putting together an instruction with the given opcode and method, whose registers
are given in the encoding `mode`, and are refused with `fault?` unless they fit it. -/
structure Checks (opcode : Opcode) (method : MethodRef) (mode : Addressing) (fits : Prop)
    (fault? : Option MalformedCall) (registers : List Nat) (result : Except Error Invocation) :
    Prop where
  /-- There is an instruction exactly when the registers fit, the opcode wants their encoding, and
  they are as many as the call takes. -/
  accepted : (∃ i, result = .ok i) ↔
    fits ∧ opcode.addressing = mode ∧ registers.length = opcode.registersTaken method
  /-- It is read back as what was given. -/
  decoded : ∀ i, result = .ok i →
    i.opcode = opcode ∧ i.method = method ∧ i.registers.map (·.toNat) = registers
  /-- Registers that do not fit are reported, whatever else went wrong. -/
  format : ¬ fits → ∃ cause, fault? = some cause ∧ result = .error (.malformed cause)
  /-- Then the encoding is, whatever the number of registers. -/
  mismatch : fits → opcode.addressing ≠ mode →
    result = .error (.malformed (.addressingMismatch opcode mode))
  /-- The number of registers is reported last. -/
  count : fits → opcode.addressing = mode → registers.length ≠ opcode.registersTaken method →
    result = .error (.malformed (.countMismatch opcode method registers.length
      (opcode.registersTaken method)))

variable {opcode : Opcode} {method : MethodRef} {mode : Addressing} {fits : Prop}
  {fault? : Option MalformedCall} {registers : List Nat}

/-- Registers that do not fit decide alone. -/
theorem checks_of_error (hfits : ¬ fits) {cause : MalformedCall} (hcause : fault? = some cause) :
    Checks opcode method mode fits fault? registers (.error (.malformed cause)) where
  accepted := by
    constructor
    · rintro ⟨i, hi⟩
      cases hi
    · exact fun h => absurd h.1 hfits
  decoded i hi := by cases hi
  format _ := ⟨cause, hcause, rfl⟩
  mismatch h := absurd h hfits
  count h := absurd h hfits

/-- Putting parts together gives the instruction with these parts. -/
theorem make_eq_ok_iff {operands : Operands} {i : Invocation} :
    make opcode operands method = .ok i ↔
      i.opcode = opcode ∧ i.operands = operands ∧ i.method = method := by
  constructor
  · intro h
    rw [make] at h
    split at h
    · split at h
      · cases h
        exact ⟨rfl, rfl, rfl⟩
      · cases h
    · cases h
  · rintro ⟨rfl, rfl, rfl⟩
    rw [make, dif_pos i.addressing_eq, dif_pos i.count_eq]

/-- Registers that fit leave the encoding and the number to be checked. -/
theorem checks_make (hfits : fits) {operands : Operands} (hmode : operands.addressing = mode)
    (hregisters : operands.registers.map (·.toNat) = registers) :
    Checks opcode method mode fits fault? registers (make opcode operands method) := by
  have hlength : operands.count = registers.length := by
    rw [← hregisters, List.length_map, Operands.length_registers]
  have hneeded := MethodRef.registersNeeded_eq opcode method
  constructor
  case accepted =>
    constructor
    · rintro ⟨i, hi⟩
      obtain ⟨rfl, rfl, rfl⟩ := make_eq_ok_iff.mp hi
      exact ⟨hfits, i.addressing_eq.symm.trans hmode, hlength.symm.trans (i.count_eq.trans hneeded)⟩
    · rintro ⟨-, haddressing, hcount⟩
      let i : Invocation := ⟨opcode, operands, method, hmode.trans haddressing.symm,
        hlength.trans (hcount.trans hneeded.symm)⟩
      exact ⟨i, make_eq_ok_iff.mpr ⟨rfl, rfl, rfl⟩⟩
  case decoded =>
    intro i hi
    obtain ⟨hopcode, hoperands, hmethod⟩ := make_eq_ok_iff.mp hi
    exact ⟨hopcode, hmethod, by rw [Invocation.registers, hoperands, hregisters]⟩
  case format => exact fun h => absurd hfits h
  case mismatch =>
    intro _ h
    rw [make, dif_neg (hmode ▸ h.symm), hmode]
  case count =>
    intro _ h hcount
    rw [make, dif_pos (hmode.trans h.symm), dif_neg (by rw [hlength, hneeded]; exact hcount), hlength,
      hneeded]

/-- Raw slots: those in use have to fit, and are what is read back. -/
theorem slots_checks (opcode : Opcode) (method : MethodRef) (count : UInt8)
    (slots : Vector UInt8 5) :
    Checks opcode method .compact
      (count.toNat ≤ 5 ∧ ∀ r ∈ slots.toList.take count.toNat, r ≤ 15)
      (CompactOperands.fault? count.toNat (slots.toList.take count.toNat))
      ((slots.toList.take count.toNat).map (·.toNat))
      (ofSlots opcode count slots method) := by
  by_cases hfits : count.toNat ≤ 5 ∧ ∀ r ∈ slots.toList.take count.toNat, r ≤ 15
  · rw [ofSlots, CompactOperands.make_eq_ok hfits.1 hfits.2]
    exact checks_make hfits rfl (CompactOperands.toNat_registers _)
  · obtain ⟨cause, hcause, hmake⟩ := CompactOperands.make_eq_error hfits
    rw [ofSlots, hmake]
    exact checks_of_error hfits hcause

/-- Registers that are named one by one. -/
theorem compact_checks (opcode : Opcode) (method : MethodRef) (registers : List UInt8) :
    Checks opcode method .compact (registers.length ≤ 5 ∧ ∀ r ∈ registers, r ≤ 15)
      (CompactOperands.fault? registers.length registers) (registers.map (·.toNat))
      (compact opcode registers method) := by
  by_cases hlength : registers.length ≤ 5
  · -- They are the slots in use of their padding.
    have hsmall : registers.length < 256 := by omega
    have hcount : (UInt8.ofNat registers.length).toNat = registers.length :=
      UInt8.toNat_ofNat_of_lt' hsmall
    have hchecks := slots_checks opcode method (UInt8.ofNat registers.length)
      (CompactOperands.padded registers)
    rw [hcount, CompactOperands.take_padded hlength] at hchecks
    rw [compact, CompactOperands.ofRegisters, if_pos hlength]
    exact hchecks
  · rw [compact, CompactOperands.ofRegisters, if_neg hlength]
    refine checks_of_error (fun h => hlength h.1) ?_
    rw [CompactOperands.fault?, if_pos (by omega)]

/-- A range of registers. -/
theorem range_checks (opcode : Opcode) (method : MethodRef) (start : UInt16) (count : UInt8) :
    Checks opcode method .range (start.toNat + count.toNat ≤ 65536)
      (some (.rangePastEnd start count)) (List.range' start.toNat count.toNat)
      (range opcode start count method) := by
  by_cases hfits : start.toNat + count.toNat ≤ 65536
  · rw [range, RangeOperands.make, dif_pos hfits]
    exact checks_make hfits rfl (RangeOperands.toNat_registers ⟨start, count, hfits⟩)
  · rw [range, RangeOperands.make, dif_neg hfits]
    exact checks_of_error hfits rfl

/-- **Exactly the well-formed instructions can be put together, and they are read back.** The slots
that are not in use have no part in it, and the slots that are may be read in either order. -/
theorem construction_checks (opcode : Opcode) (method : MethodRef) :
    (∀ registers : List UInt8,
      Checks opcode method .compact (registers.length ≤ 5 ∧ ∀ r ∈ registers, r ≤ 15)
        (CompactOperands.fault? registers.length registers) (registers.map (·.toNat))
        (compact opcode registers method)) ∧
    (∀ (count : UInt8) (slots : Vector UInt8 5),
      Checks opcode method .compact
        (count.toNat ≤ 5 ∧ ∀ r ∈ slots.toList.take count.toNat, r ≤ 15)
        (CompactOperands.fault? count.toNat (slots.toList.take count.toNat))
        ((slots.toList.take count.toNat).map (·.toNat))
        (ofSlots opcode count slots method)) ∧
    (∀ (start : UInt16) (count : UInt8),
      Checks opcode method .range (start.toNat + count.toNat ≤ 65536)
        (some (.rangePastEnd start count)) (List.range' start.toNat count.toNat)
        (range opcode start count method)) ∧
    ∀ operands : CompactOperands, operands.filled = operands.registers :=
  ⟨compact_checks opcode method, slots_checks opcode method, range_checks opcode method,
    CompactOperands.filled_eq⟩

end Invocation

end CallEffects
