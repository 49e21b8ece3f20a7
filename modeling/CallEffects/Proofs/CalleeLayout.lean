import CallEffects.Proofs.CalleeFrame

/-!
# What a callee finds in its registers

The types of the arguments are enough to judge a call that is not run. A handler also reads their
values, and for those it matters which register of the caller a parameter is supplied from. A wide
parameter takes two registers and moves all later ones by one more, so the place of a parameter is
the number of registers that the parameters before it take, and not its number.

Both halves of a wide parameter hold the value of the first register of the pair. The second
register is passed, but never read.

## Main definitions

* `Invocation.offset` — the place of a declared parameter among the argument registers
* `Frame.LaidOut` — the frame of a callee, register by register

## Main results

* `Frame.getElem?_parameterStores` — what is passed at the place of a parameter
* `Frame.callee_laidOut` — the frame of a callee is always built, and is laid out like this
-/

namespace CallEffects

/-- The place of the `k`-th declared parameter among the argument registers: behind the instance,
if there is one, and behind the registers of the parameters before it. -/
def Invocation.offset (call : Invocation) (k : Nat) : Nat :=
  (if call.isStatic then 0 else 1) + (call.method.params.take k).foldr (·.width + ·) 0

namespace Frame

variable {caller : Frame} {method : MethodRef} {point : Nat}

/-! ### One parameter after the other -/

/-- What is passed for the first of several parameters: the value of its first register, as often as
it takes registers. The others are supplied from the registers behind those. -/
theorem exists_of_parameterStores_cons {type : TypeDescriptor} {types : List TypeDescriptor}
    {registers : List UInt16} {stores : List Store}
    (h : caller.parameterStores method point (type :: types) registers = .ok stores) :
    ∃ r upper rest stores', registers = r :: upper ++ rest ∧ (r :: upper).length = type.width ∧
      caller.parameterStores method point types rest = .ok stores' ∧
      stores = List.replicate type.width ⟨type, caller.value r point⟩ ++ stores' := by
  obtain _ | ⟨r, registers⟩ := registers
  · cases h
  rw [parameterStores.eq_def] at h
  by_cases hwide : type.isWide = true
  · rw [TypeDescriptor.width_of_isWide hwide]
    obtain _ | ⟨r', registers⟩ := registers
    · simp only [if_pos hwide] at h
      cases h
    · simp only [if_pos hwide] at h
      cases hrest : caller.parameterStores method point types registers with
      | error e =>
        rw [hrest] at h
        cases h
      | ok stores' =>
        rw [hrest] at h
        exact ⟨r, [r'], registers, stores', rfl, rfl, hrest, (Except.ok.inj h).symm⟩
  · have hnarrow : type.isWide = false := by simpa using hwide
    rw [TypeDescriptor.width_of_not_isWide hnarrow]
    simp only [if_neg hwide] at h
    cases hrest : caller.parameterStores method point types registers with
    | error e =>
      rw [hrest] at h
      cases h
    | ok stores' =>
      rw [hrest] at h
      exact ⟨r, [], registers, stores', rfl, rfl, hrest, (Except.ok.inj h).symm⟩

/-- **What is passed at the place of a parameter**, with as many registers in front of it as the
parameters before it take. -/
theorem getElem?_parameterStores {types : List TypeDescriptor} {registers : List UInt16}
    {stores : List Store}
    (h : caller.parameterStores method point types registers = .ok stores) {k : Nat}
    {type : TypeDescriptor} (hk : types[k]? = some type) :
    ∃ r, registers[(types.take k).foldr (·.width + ·) 0]? = some r ∧
      ∀ j, j < type.width → stores[(types.take k).foldr (·.width + ·) 0 + j]? =
        some ⟨type, caller.value r point⟩ := by
  induction types generalizing registers stores k with
  | nil => exact absurd hk.symm (Option.some_ne_none type)
  | cons first types ih =>
    obtain ⟨r, upper, rest, stores', rfl, hwidth, hrest, rfl⟩ := exists_of_parameterStores_cons h
    cases k with
    | zero =>
      obtain rfl : first = type := Option.some.inj hk
      refine ⟨r, rfl, fun j hj => ?_⟩
      have hreplicate : j < (List.replicate first.width
          (⟨first, caller.value r point⟩ : Store)).length := by
        rwa [List.length_replicate]
      rw [List.take_zero, List.foldr_nil, Nat.zero_add, List.getElem?_append_left hreplicate,
        List.getElem?_replicate, if_pos hj]
    | succ k =>
      obtain ⟨s, hs, hstores⟩ := ih hrest hk
      refine ⟨s, ?_, fun j hj => ?_⟩
      · -- The first parameter takes its width off the front, of the registers and of the stores.
        rw [List.take_succ_cons, List.foldr_cons, ← hwidth, List.getElem?_append_right (by omega),
          Nat.add_sub_cancel_left]
        exact hs
      · have hlen : (List.replicate first.width
            (⟨first, caller.value r point⟩ : Store)).length = first.width := List.length_replicate
        rw [List.take_succ_cons, List.foldr_cons, Nat.add_assoc,
          List.getElem?_append_right (by omega), hlen, Nat.add_sub_cancel_left]
        exact hstores j hj

/-! ### The instance and the parameters -/

/-- The stores that a call with an instance passes: first that of the instance. -/
theorem exists_of_argumentStores {registers : List UInt16} {stores : List Store}
    (h : caller.argumentStores method false point registers = .ok stores) :
    ∃ r rest stores', registers = r :: rest ∧
      caller.parameterStores method point method.params rest = .ok stores' ∧
      stores = caller.instanceStore method.owner r point :: stores' := by
  rw [argumentStores.eq_def, if_neg Bool.false_ne_true] at h
  obtain _ | ⟨r, rest⟩ := registers
  · cases h
  · cases hrest : caller.parameterStores method point method.params rest with
    | error e =>
      simp only [hrest] at h
      cases h
    | ok stores' =>
      simp only [hrest] at h
      exact ⟨r, rest, stores', rfl, hrest, (Except.ok.inj h).symm⟩

/-- What a call passes at the place of a declared parameter. -/
theorem getElem?_argumentStores {call : Invocation} {stores : List Store}
    (h : caller.argumentStores call.method call.isStatic point call.registers = .ok stores)
    {k : Nat} {type : TypeDescriptor} (hk : call.method.params[k]? = some type) :
    ∃ r, call.registers[call.offset k]? = some r ∧
      ∀ j, j < type.width →
        stores[call.offset k + j]? = some ⟨type, caller.value r point⟩ := by
  rw [Invocation.offset]
  cases hstatic : call.isStatic with
  | true =>
    rw [hstatic, argumentStores.eq_def, if_pos rfl] at h
    rw [if_pos rfl, Nat.zero_add]
    exact getElem?_parameterStores h hk
  | false =>
    rw [hstatic] at h
    obtain ⟨r, rest, stores', hregs, hrest, rfl⟩ := exists_of_argumentStores h
    obtain ⟨s, hs, hstores⟩ := getElem?_parameterStores hrest hk
    -- The instance stands in front of everything.
    rw [if_neg Bool.false_ne_true, hregs, Nat.add_comm, List.getElem?_cons_succ]
    refine ⟨s, hs, fun j hj => ?_⟩
    rw [Nat.add_right_comm, List.getElem?_cons_succ]
    exact hstores j hj

/-! ### The frame -/

/-- One call less may be nested, and no less than none. -/
theorem toNat_calleeDepth (caller : Frame) : caller.calleeDepth.toNat = caller.depth.toNat - 1 := by
  rw [calleeDepth]
  split
  · rename_i hzero
    rw [hzero]
    rfl
  · rename_i hpos
    have hle : (1 : UInt32) ≤ caller.depth := by
      have hne : caller.depth.toNat ≠ 0 := fun hc => hpos (UInt32.toNat_inj.mp hc)
      rw [UInt32.le_iff_toNat_le, UInt32.toNat_one]
      omega
    rw [UInt32.toNat_sub_of_le _ _ hle, UInt32.toNat_one]

/-- A register outside the frame reads as one that was never written. -/
theorem read?_of_registerCount_le {f : Frame} {r : UInt16} (h : f.registerCount ≤ r) (point : Nat) :
    f.read? r point = none := by
  have hle : f.registers.size ≤ r.toNat := by
    rwa [UInt16.le_iff_toNat_le, toNat_registerCount] at h
  rw [read?, history_eq_empty hle, History.read?_empty]

/-- The frame of a callee, register by register. -/
structure LaidOut (caller : Frame) (call : Invocation) (point : Nat) (callee : Frame) : Prop where
  /-- There are as many registers as are passed. -/
  registerCount : callee.registerCount.toNat = call.registers.length
  /-- All of them are parameters. -/
  parameterSize : callee.parameterSize = callee.registerCount
  /-- So the first parameter is register 0. -/
  parameterStart : callee.parameterStart = 0
  /-- One call less may be nested, and no less than none. -/
  depth : callee.depth.toNat = caller.depth.toNat - 1
  /-- Nothing was called. -/
  result : callee.result = none
  /-- Nothing was returned. -/
  returned : callee.returned = none
  /-- Every register was written once, at the entry. -/
  entered : ∀ r, r < callee.registerCount →
    ∃ store, (callee.history r).entries = [(0, store)]
  /-- The instance is what the caller knows of its register, or else of the class whose method is
  called. -/
  receiver : call.isStatic = false → ∃ r, call.registers[0]? = some r ∧
    (callee.history 0).entries =
      [(0, (caller.read? r point).getD ⟨call.method.owner, .unknown .unanalyzed⟩)]
  /-- All registers of a parameter hold the value of the first of them, under the declared type. -/
  parameter : ∀ k type, call.method.params[k]? = some type →
    ∃ r, call.registers[call.offset k]? = some r ∧
      ∀ j, j < type.width → (callee.history (.ofNat (call.offset k + j))).entries =
        [(0, ⟨type, caller.value r point⟩)]
  /-- What lies outside the frame of the caller is read as if it was never written. -/
  outside : ∀ r ∈ call.registers, caller.registerCount ≤ r →
    caller.read? r point = none ∧ caller.value r point = .unknown .unanalyzed

/-- **The layout of the frame of a callee.** Whatever the caller knows, whether or not the registers
that are passed are registers of its frame, and however wide the parameters are, the frame is built
and laid out as declared. -/
theorem callee_laidOut (caller : Frame) (call : Invocation) (point : Nat) :
    ∃ callee, caller.callee call point = .ok callee ∧ caller.LaidOut call point callee := by
  obtain ⟨stores, callee, hstores, htypes, hcallee, hentry⟩ := caller.callee_atEntry call point
  have hlen : stores.length = call.registers.length := by
    rw [← List.length_map, htypes, length_passedTypes]
  refine ⟨callee, hcallee, ?_⟩
  constructor
  case registerCount => rw [toNat_registerCount, hentry.size, hlen]
  case parameterSize =>
    rw [← UInt16.toNat_inj, toNat_registerCount, hentry.size, hentry.parameterSize]
  case parameterStart => rw [← UInt16.toNat_inj, hentry.parameterStart, UInt16.toNat_zero]
  case depth => rw [hentry.depth, toNat_calleeDepth]
  case result => exact hentry.result
  case returned => exact hentry.returned
  case entered =>
    intro r hr
    have hlt : r.toNat < stores.length := by
      rwa [UInt16.lt_iff_toNat_lt, toNat_registerCount, hentry.size] at hr
    have hhistory := hentry.history r.toNat _ (List.getElem?_eq_getElem hlt)
    rw [UInt16.ofNat_toNat] at hhistory
    exact ⟨stores[r.toNat], by rw [hhistory]; rfl⟩
  case receiver =>
    intro hstatic
    rw [hstatic] at hstores
    obtain ⟨r, rest, stores', hregs, -, rfl⟩ := exists_of_argumentStores hstores
    refine ⟨r, by rw [hregs]; rfl, ?_⟩
    have hhistory := hentry.history 0 _ rfl
    have hknown : caller.instanceStore call.method.owner r point =
        (caller.read? r point).getD ⟨call.method.owner, .unknown .unanalyzed⟩ := by
      rw [instanceStore]
      cases caller.read? r point <;> rfl
    rw [hknown] at hhistory
    exact congrArg History.entries hhistory
  case parameter =>
    intro k type hk
    obtain ⟨r, hr, hparameter⟩ := getElem?_argumentStores hstores hk
    refine ⟨r, hr, fun j hj => ?_⟩
    exact congrArg History.entries (hentry.history _ _ (hparameter j hj))
  case outside =>
    intro r _ hout
    have hread := read?_of_registerCount_le hout point
    exact ⟨hread, by rw [value, hread]⟩

end Frame

end CallEffects
