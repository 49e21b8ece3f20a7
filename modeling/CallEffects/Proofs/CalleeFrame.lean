import CallEffects.Callee
import CallEffects.Judgement
import CallEffects.Proofs.Reading

/-!
# The types under which arguments are passed

`Frame.callee` walks over the declared parameters and the argument registers at once, and
`Frame.passedSlots` reads the types back out of the frame that it builds. The conditions on an
`Invocation` make the two walks end together, so the frame is always built, and what is read back
has a closed form: the declared types, each as often as it takes registers, behind the type of
the instance.

The instance is the one argument that is typed by the caller and not by the declaration.

## Main definitions

* `MethodRef.registerTypes` — the declared types, register by register
* `Frame.passedTypes`, `Frame.slots` — the types under which a call passes its registers
* `Frame.AtEntry` — the frame of a method at its entry

## Main results

* `Frame.argumentStores_ok` — as many stores are passed as registers, under these types
* `Frame.bindAll_ok` — writing stores to parameters, one after the other
* `Frame.callee_atEntry` — the frame of a callee is built from the stores that are passed
* `Frame.callee_ok` — the frame of a callee is always built, and holds these types
-/

namespace CallEffects

/-! ### Types by register -/

/-- The declared types, register by register: a wide one stands for both halves of its pair. -/
def MethodRef.registerTypes (m : MethodRef) : List TypeDescriptor :=
  m.params.flatMap fun type => List.replicate type.width type

theorem MethodRef.length_registerTypes (m : MethodRef) :
    m.registerTypes.length = m.parameterRegisters := by
  rw [registerTypes, parameterRegisters]
  induction m.params with
  | nil => rfl
  | cons type types ih =>
    rw [List.flatMap_cons, List.length_append, List.length_replicate, ih, List.foldr_cons]

namespace Frame

/-- The type of the instance: what the caller knows of its register, or else the owner of the
method. -/
def instanceType (caller : Frame) (call : Invocation) (point : Nat) : TypeDescriptor :=
  match call.registers.head?.bind (caller.read? · point) with
  | some store => store.type
  | none => call.method.owner

/-- The types under which a call passes its registers. -/
def passedTypes (caller : Frame) (call : Invocation) (point : Nat) : List TypeDescriptor :=
  if call.isStatic then call.method.registerTypes
  else caller.instanceType call point :: call.method.registerTypes

/-- The registers that a call passes, each with the type under which it is passed. -/
def slots (caller : Frame) (call : Invocation) (point : Nat) : List (UInt16 × TypeDescriptor) :=
  call.registers.zip (caller.passedTypes call point)

/-- Every register is passed under one type. -/
theorem length_passedTypes (caller : Frame) (call : Invocation) (point : Nat) :
    (caller.passedTypes call point).length = call.registers.length := by
  rw [passedTypes, call.length_registers, MethodRef.registersNeeded]
  cases call.isStatic with
  | true => exact call.method.length_registerTypes
  | false => exact congrArg (· + 1) call.method.length_registerTypes

theorem map_fst_slots (caller : Frame) (call : Invocation) (point : Nat) :
    (caller.slots call point).map (·.1) = call.registers :=
  List.map_fst_zip (Nat.le_of_eq (caller.length_passedTypes call point).symm)

/-! ### Stores for the arguments -/

/-- As many registers as the types take are enough for all of them, and none is left over. -/
theorem parameterStores_ok (caller : Frame) (method : MethodRef) (point : Nat)
    {types : List TypeDescriptor} {registers : List UInt16}
    (hlen : registers.length = types.foldr (·.width + ·) 0) :
    ∃ stores, caller.parameterStores method point types registers = .ok stores ∧
      stores.map (·.type) = types.flatMap fun type => List.replicate type.width type := by
  induction types generalizing registers with
  | nil =>
    obtain rfl : registers = [] := List.eq_nil_of_length_eq_zero hlen
    exact ⟨[], rfl, rfl⟩
  | cons type types ih =>
    rw [List.foldr_cons] at hlen
    by_cases hwide : type.isWide = true
    · rw [TypeDescriptor.width_of_isWide hwide] at hlen
      obtain _ | ⟨r, _ | ⟨r', registers⟩⟩ := registers
      · simp only [List.length_nil] at hlen
        omega
      · simp only [List.length_cons, List.length_nil] at hlen
        omega
      · have hrest : registers.length = types.foldr (·.width + ·) 0 := by
          simp only [List.length_cons] at hlen
          omega
        obtain ⟨stores, hstores, htypes⟩ := ih hrest
        refine ⟨_, by rw [parameterStores, if_pos hwide, hstores]; rfl, ?_⟩
        simp [htypes, TypeDescriptor.width_of_isWide hwide]
    · have hnarrow : type.isWide = false := by simpa using hwide
      rw [TypeDescriptor.width_of_not_isWide hnarrow] at hlen
      obtain _ | ⟨r, registers⟩ := registers
      · simp only [List.length_nil] at hlen
        omega
      · have hrest : registers.length = types.foldr (·.width + ·) 0 := by
          simp only [List.length_cons] at hlen
          omega
        obtain ⟨stores, hstores, htypes⟩ := ih hrest
        refine ⟨_, by rw [parameterStores.eq_def]; simp only [if_neg hwide, hstores]; rfl, ?_⟩
        simp [htypes, TypeDescriptor.width_of_not_isWide hnarrow]

theorem type_instanceStore (caller : Frame) (owner : TypeDescriptor) (register : UInt16)
    (point : Nat) :
    (caller.instanceStore owner register point).type =
      match caller.read? register point with
      | some store => store.type
      | none => owner := by
  rw [instanceStore]
  cases caller.read? register point <;> rfl

/-- An invocation passes one store in each of its registers. -/
theorem argumentStores_ok (caller : Frame) (call : Invocation) (point : Nat) :
    ∃ stores, caller.argumentStores call.method call.isStatic point call.registers = .ok stores ∧
      stores.map (·.type) = caller.passedTypes call point := by
  have hlen : call.registers.length = call.method.params.foldr (·.width + ·) 0 +
      if call.isStatic then 0 else 1 := call.length_registers
  cases hstatic : call.isStatic with
  | true =>
    rw [hstatic, if_pos rfl, Nat.add_zero] at hlen
    rw [argumentStores.eq_def, if_pos rfl, passedTypes, if_pos hstatic]
    exact parameterStores_ok caller call.method point hlen
  | false =>
    rw [hstatic, if_neg Bool.false_ne_true] at hlen
    rw [argumentStores.eq_def, if_neg Bool.false_ne_true, passedTypes, hstatic,
      if_neg Bool.false_ne_true, instanceType]
    cases hregs : call.registers with
    | nil =>
      rw [hregs, List.length_nil] at hlen
      omega
    | cons register registers =>
      rw [hregs, List.length_cons] at hlen
      obtain ⟨stores, hstores, htypes⟩ :=
        parameterStores_ok caller call.method point (Nat.succ.inj hlen)
      refine ⟨_, by simp only [hstores]; rfl, ?_⟩
      rw [List.map_cons, htypes, type_instanceStore]
      rfl

/-! ### Writing them -/

/-- Writing stores to parameters in turn. Each parameter is written once, with its store. The
registers before the first of them are as they were, and so is all that is not a register. -/
theorem bindAll_ok {stores : List Store} {f : Frame} {index : UInt16}
    (hfit : index.toNat + stores.length ≤ f.parameterSize.toNat) :
    ∃ g, f.bindAll index stores = .ok g ∧
      (g.registers.size = f.registers.size ∧ g.parameterSize = f.parameterSize ∧
        g.depth = f.depth ∧ g.result = f.result ∧ g.returned = f.returned) ∧
      (∀ r : UInt16, r.toNat < f.parameterStart.toNat + index.toNat → g.history r = f.history r) ∧
      ∀ i store, stores[i]? = some store →
        g.history (.ofNat (f.parameterStart.toNat + index.toNat + i)) =
          (f.history (.ofNat (f.parameterStart.toNat + index.toNat + i))).write entryPoint store := by
  induction stores generalizing f index with
  | nil =>
    refine ⟨f, rfl, ⟨rfl, rfl, rfl, rfl, rfl⟩, fun _ _ => rfl, fun i store hi => ?_⟩
    exact absurd hi.symm (Option.some_ne_none store)
  | cons store stores ih =>
    rw [List.length_cons] at hfit
    have hsize := f.size_lt
    have hle := f.parameterSize_le
    have hstart := f.toNat_parameterStart
    have hreg : (f.parameterStart + index).toNat = f.parameterStart.toNat + index.toNat := by
      rw [UInt16.toNat_add]
      omega
    have hsucc : (index + 1).toNat = index.toNat + 1 := by
      rw [UInt16.toNat_add, UInt16.toNat_one]
      omega
    have hlt : (f.parameterStart + index).toNat < f.registers.size := by omega
    obtain ⟨f', hwrite⟩ := f.write_eq_ok store entryPoint hlt
    obtain ⟨hsize', hparams', hdepth', hresult', hreturned'⟩ := outline_write hwrite
    have hstart' : f'.parameterStart = f.parameterStart := by
      rw [parameterStart, parameterStart, registerCount, registerCount, hsize', hparams']
    have hfit' : (index + 1).toNat + stores.length ≤ f'.parameterSize.toNat := by
      rw [hparams']
      omega
    obtain ⟨g, hbind, ⟨hgsize, hgparams, hgdepth, hgresult, hgreturned⟩, hbelow, hbound⟩ := ih hfit'
    rw [hstart', hsucc] at hbelow hbound
    refine ⟨g, ?_, ⟨hgsize.trans hsize', hgparams.trans hparams', hgdepth.trans hdepth',
      hgresult.trans hresult', hgreturned.trans hreturned'⟩, fun r hr => ?_, fun i s hs => ?_⟩
    · rw [bindAll, bindParameter, if_pos (UInt16.lt_iff_toNat_lt.mpr (by omega)), hwrite]
      exact hbind
    · have hne : r ≠ f.parameterStart + index := by
        rintro rfl
        omega
      rw [hbelow r (by omega), history_write hwrite, if_neg hne]
    · cases i with
      | zero =>
        obtain rfl : store = s := Option.some.inj hs
        have hself : UInt16.ofNat (f.parameterStart.toNat + index.toNat + 0) =
            f.parameterStart + index := by
          rw [Nat.add_zero, ← hreg, UInt16.ofNat_toNat]
        rw [hself, hbelow _ (by omega), history_write hwrite, if_pos rfl]
      | succ i =>
        have hi : i < stores.length := Nat.lt_of_succ_lt_succ (List.getElem?_eq_some_iff.mp hs).1
        have hfile : f.parameterStart.toNat + (index.toNat + 1) + i < 65536 := by omega
        have hlater : f.parameterStart.toNat + index.toNat + (i + 1) =
            f.parameterStart.toNat + (index.toNat + 1) + i := by omega
        have hne : UInt16.ofNat (f.parameterStart.toNat + (index.toNat + 1) + i) ≠
            f.parameterStart + index := by
          intro heq
          have hnat := congrArg UInt16.toNat heq
          rw [UInt16.toNat_ofNat_of_lt' hfile] at hnat
          omega
        rw [hlater, hbound i s hs, history_write hwrite, if_neg hne]

/-! ### The frame -/

/-- Reading consecutive places next to the registers that supply them. -/
theorem filterMap_zip_range' (read : Nat → Option Store) {registers : List UInt16}
    {stores : List Store} {k : Nat} (hlen : stores.length = registers.length)
    (hread : ∀ i, i < stores.length → read (k + i) = stores[i]?) :
    ((List.range' k registers.length).zip registers).filterMap
        (fun slot => (read slot.1).map fun store => (slot.2, store.type)) =
      registers.zip (stores.map (·.type)) := by
  induction registers generalizing stores k with
  | nil => rfl
  | cons register registers ih =>
    obtain _ | ⟨store, stores⟩ := stores
    · exact absurd hlen (Nat.zero_ne_add_one _)
    · have hhead : read k = some store := hread 0 (Nat.zero_lt_succ _)
      have hread' : ∀ i, i < stores.length → read (k + 1 + i) = stores[i]? := fun i hi => by
        rw [Nat.add_right_comm]
        exact hread (i + 1) (Nat.succ_lt_succ hi)
      have htail := ih (Nat.succ.inj hlen) hread'
      rw [List.length_cons, List.range'_succ, List.zip_cons_cons, List.filterMap_cons]
      simp only [hhead, Option.map_some, List.map_cons, List.zip_cons_cons, htail]

theorem length_registers_lt (call : Invocation) : call.registers.length < 65536 := by
  rw [Invocation.registers, Operands.length_registers]
  cases call.operands with
  | compact o => exact Nat.lt_trans o.count.toNat_lt (by decide)
  | range o => exact Nat.lt_trans o.count.toNat_lt (by decide)

/-- The frame of a method at its entry: all registers are parameters, each has been written once,
and nothing has been called or returned. -/
structure AtEntry (f : Frame) (depth : UInt32) (stores : List Store) : Prop where
  /-- There is one register for each store. -/
  size : f.registers.size = stores.length
  /-- All of them are parameters. -/
  parameterSize : f.parameterSize.toNat = stores.length
  /-- So many calls may be nested. -/
  depth : f.depth = depth
  /-- Nothing was called. -/
  result : f.result = none
  /-- Nothing was returned. -/
  returned : f.returned = none
  /-- Each register holds its store since the entry. -/
  history : ∀ i store, stores[i]? = some store →
    f.history (.ofNat i) = History.empty.write entryPoint store

/-- All registers are parameters, so the first of them is register 0. -/
theorem AtEntry.parameterStart {f : Frame} {depth : UInt32} {stores : List Store}
    (h : f.AtEntry depth stores) : f.parameterStart.toNat = 0 := by
  rw [toNat_parameterStart, h.size, h.parameterSize, Nat.sub_self]

theorem history_new (count parameters : UInt16) (depth : UInt32) (r : UInt16) :
    (new count parameters depth).history r = .empty := by
  rw [history, Array.getD_eq_getD_getElem?, new, Array.getElem?_replicate]
  split <;> rfl

/-- The frame of a callee is always built, from the stores that the call passes. -/
theorem callee_atEntry (caller : Frame) (call : Invocation) (point : Nat) :
    ∃ stores callee,
      caller.argumentStores call.method call.isStatic point call.registers = .ok stores ∧
      stores.map (·.type) = caller.passedTypes call point ∧
      caller.callee call point = .ok callee ∧ callee.AtEntry caller.calleeDepth stores := by
  have hlt := length_registers_lt call
  obtain ⟨stores, hstores, htypes⟩ := argumentStores_ok caller call point
  have hlen : stores.length = call.registers.length := by
    rw [← List.length_map, htypes, length_passedTypes]
  have hcount : (UInt16.ofNat call.registers.length).toNat = stores.length := by
    rw [UInt16.toNat_ofNat_of_lt' hlt, hlen]
  let start := new (.ofNat call.registers.length) (.ofNat call.registers.length) caller.calleeDepth
  have hsize : start.registers.size = stores.length := by
    simp [start, new, hcount]
  have hparams : start.parameterSize.toNat = stores.length := by
    simp [start, new, min, hcount]
  have hstart : start.parameterStart.toNat = 0 := by
    rw [toNat_parameterStart, hsize, hparams, Nat.sub_self]
  have hfit : (0 : UInt16).toNat + stores.length ≤ start.parameterSize.toNat := by
    rw [hparams]
    exact Nat.le_of_eq (Nat.zero_add _)
  obtain ⟨g, hbind, ⟨hgsize, hgparams, hgdepth, hgresult, hgreturned⟩, -, hbound⟩ := bindAll_ok hfit
  refine ⟨stores, g, hstores, htypes, ?_, hgsize.trans hsize, ?_, hgdepth, hgresult, hgreturned,
    fun i store hi => ?_⟩
  · rw [callee, if_neg (by omega), hstores]
    exact hbind
  · rw [hgparams, hparams]
  · have hi' := hbound i store hi
    rw [hstart, UInt16.toNat_zero, Nat.zero_add, history_new] at hi'
    exact hi'

/-- **The frame of a callee.** It is always built, and the types that it holds are those under
which the call passes its registers. -/
theorem callee_ok (caller : Frame) (call : Invocation) (point : Nat) :
    ∃ callee, caller.callee call point = .ok callee ∧
      callee.passedSlots call.registers = caller.slots call point := by
  obtain ⟨stores, callee, -, htypes, hcallee, hentry⟩ := caller.callee_atEntry call point
  have hlen : stores.length = call.registers.length := by
    rw [← List.length_map, htypes, length_passedTypes]
  refine ⟨callee, hcallee, ?_⟩
  rw [passedSlots, hentry.parameterStart, hentry.parameterSize, hlen, slots, ← htypes]
  refine filterMap_zip_range' (fun i => callee.read? (.ofNat i) entryPoint) hlen fun i hi => ?_
  rw [Nat.zero_add, read?, History.read?_entry, List.getElem?_eq_getElem hi,
    hentry.history i _ (List.getElem?_eq_getElem hi), History.at?_write, if_pos rfl]

end Frame

end CallEffects
