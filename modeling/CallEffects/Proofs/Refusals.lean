import CallEffects.Proofs.Dispatching

/-!
# When a call is refused

Many steps on the way of a call can refuse it. The frame of the callee is built only if the argument
registers line up with the declared parameters, a parameter is bound only if its index is one, and a
judgement is carried out only on a register of the caller. The last of these would stop a call when
some registers have lost their values and others have not.

None of these steps ever refuses. An `Invocation` passes as many registers as its method takes,
whatever the parameters are called, and the registers are compared with the frame of the caller
before anything is changed. So there is one reason to refuse a call, and it leaves no trace but the
event that the call was reached.

## Main definitions

* `Analysis.Refuses` — a call is refused for a register, and nothing else comes of it
* `Analysis.Completes` — a call has an outcome, and no step on its way refuses

## Main results

* `Analysis.firstOutside?_eq_some_iff`, `Analysis.ruling_eq_refused_iff` — when a call is refused,
  and for which register
* `Analysis.outcome_approximate` — carrying out judgements does not stop halfway
* `Analysis.dispatch_refused_only_outside` — a call is refused exactly for a register outside the
  frame, and completes otherwise
-/

namespace CallEffects

namespace Analysis

/-! ### Registers outside the frame -/

theorem firstOutside?_eq_none_iff {caller : Frame} {registers : List UInt16} :
    firstOutside? caller registers = none ↔ ∀ r ∈ registers, r < caller.registerCount := by
  rw [firstOutside?, List.find?_eq_none]
  simp only [decide_eq_true_eq, UInt16.not_le]

/-- The register that is reported lies outside the frame, and those before it do not. -/
theorem firstOutside?_eq_some_iff {caller : Frame} {registers : List UInt16} {r : UInt16} :
    firstOutside? caller registers = some r ↔
      caller.registerCount ≤ r ∧ ∃ before after, registers = before ++ r :: after ∧
        ∀ r' ∈ before, r' < caller.registerCount := by
  rw [firstOutside?, List.find?_eq_some_iff_append]
  simp only [decide_eq_true_eq, Bool.not_eq_true', decide_eq_false_iff_not, UInt16.not_le]

/-- A call is refused for the first register outside the frame, and for nothing else. -/
theorem ruling_eq_refused_iff {a : Analysis} {caller : Frame} {call : Invocation} {point : Nat}
    {e : Error} :
    a.ruling caller call point = .refused e ↔
      ∃ r, firstOutside? caller call.registers = some r ∧
        e = .registerOutOfRange r caller.registerCount := by
  obtain ⟨callee, hcallee, -⟩ := caller.callee_ok call point
  rw [ruling]
  cases hout : firstOutside? caller call.registers with
  | some r =>
    constructor
    · intro h
      exact ⟨r, rfl, (Ruling.refused.inj h).symm⟩
    · rintro ⟨r', hr, rfl⟩
      rw [Option.some.inj hr]
  | none =>
    rw [hcallee]
    constructor
    · exact fun h => absurd h rulingOn_ne_refused
    · rintro ⟨r, hr, -⟩
      exact absurd hr.symm (Option.some_ne_none r)

/-! ### Steps that never refuse -/

variable {a : Analysis} {caller : Frame} {call : Invocation} {point : Nat}

/-- Once the arguments are found inside the frame, every judgement on them is carried out, whatever
an analysis has kept and answers. -/
theorem outcome_approximate (a : Analysis) {callee : Frame} (d : Disposition)
    (hin : firstOutside? caller call.registers = none)
    (hcallee : caller.callee call point = .ok callee) :
    ∃ o, (a.approximate caller callee call point d).outcome = .ok o ∧ o.disposition = d := by
  obtain ⟨callee', hcallee', hslots⟩ := caller.callee_ok call point
  obtain rfl : callee' = callee := Except.ok.inj (hcallee'.symm.trans hcallee)
  rw [approximate_eq a d hin hslots]
  exact ⟨_, rfl, rfl⟩

/-- A call whose arguments are found inside the frame has an outcome. -/
theorem outcome_dispatch_of_inside (a : Analysis) (point : Nat)
    (hin : firstOutside? caller call.registers = none) :
    ∃ o, (a.dispatch caller call point).outcome = .ok o := by
  cases hruling : a.ruling caller call point with
  | refused e =>
    obtain ⟨r, hr, -⟩ := ruling_eq_refused_iff.mp hruling
    exact absurd (hin.symm.trans hr).symm (Option.some_ne_none r)
  | returns store =>
    rw [dispatch_of_returns hruling]
    exact ⟨_, rfl⟩
  | approximated events d =>
    rw [dispatch_of_approximated hruling]
    exact ⟨_, rfl⟩

/-- When a handler fails, the call is approximated, and the error is only logged. -/
theorem dispatch_of_emulate_error {callee : Frame} {e : Error}
    (hin : firstOutside? caller call.registers = none)
    (hcallee : caller.callee call point = .ok callee)
    (hemulated : a.disposition caller call.method.descriptor = .emulated)
    (herror : a.registry.emulate callee call.method.descriptor = .error e) :
    ∃ o, (a.dispatch caller call point).outcome = .ok o ∧ o.disposition = .blackBox ∧
      .failed call.method.descriptor e ∈ (a.dispatch caller call point).analysis.log.toList := by
  have hruling : a.ruling caller call point =
      .approximated [.failed call.method.descriptor e] .blackBox := by
    simp only [ruling, hin, hcallee, rulingOn, hemulated, herror]
  rw [dispatch_of_approximated hruling]
  refine ⟨_, rfl, rfl, ?_⟩
  simp

/-! ### Refused or completed -/

/-- A call is refused for a register, and nothing else comes of it: the caller and the parts of the
analysis are as they were, and the log has one event more. -/
structure Refuses (a : Analysis) (caller : Frame) (call : Invocation) (point : Nat)
    (register : UInt16) : Prop where
  /-- The error names the register and the size of the frame. -/
  outcome : (a.dispatch caller call point).outcome =
    .error (.registerOutOfRange register caller.registerCount)
  /-- The caller is as it was. -/
  frame : (a.dispatch caller call point).caller = caller
  /-- What was kept is as it was. -/
  resolver : (a.dispatch caller call point).analysis.resolver = a.resolver
  /-- So are the handlers. -/
  registry : (a.dispatch caller call point).analysis.registry = a.registry
  /-- So are the settings. -/
  settings : (a.dispatch caller call point).analysis.settings = a.settings
  /-- That the call was reached is logged, and nothing else. -/
  log : (a.dispatch caller call point).analysis.log.toList = a.log.toList ++ [.processed call]

/-- A call has an outcome, and no step on its way refuses. -/
structure Completes (a : Analysis) (caller : Frame) (call : Invocation) (point : Nat) : Prop where
  /-- The call has an outcome. -/
  outcome : ∃ o, (a.dispatch caller call point).outcome = .ok o
  /-- Carrying out judgements does not stop halfway, whatever they are. -/
  settles : ∀ (b : Analysis) (callee : Frame) (d : Disposition),
    caller.callee call point = .ok callee →
      ∃ o, (b.approximate caller callee call point d).outcome = .ok o ∧ o.disposition = d
  /-- The error of a handler is logged and does not leave the call. -/
  handles : ∀ (callee : Frame) (e : Error), caller.callee call point = .ok callee →
    a.disposition caller call.method.descriptor = .emulated →
      a.registry.emulate callee call.method.descriptor = .error e →
        ∃ o, (a.dispatch caller call point).outcome = .ok o ∧ o.disposition = .blackBox ∧
          .failed call.method.descriptor e ∈ (a.dispatch caller call point).analysis.log.toList

theorem refuses_of_firstOutside? {r : UInt16}
    (h : firstOutside? caller call.registers = some r) : a.Refuses caller call point r := by
  have hruling : a.ruling caller call point =
      .refused (.registerOutOfRange r caller.registerCount) :=
    ruling_eq_refused_iff.mpr ⟨r, h, rfl⟩
  constructor <;> rw [dispatch_of_refused hruling]
  case resolver | registry | settings => rfl
  case log => exact EventLog.toList_record a.log (.processed call)

theorem completes_of_inside (h : firstOutside? caller call.registers = none) :
    a.Completes caller call point where
  outcome := a.outcome_dispatch_of_inside point h
  settles := fun b _ d hcallee => b.outcome_approximate d h hcallee
  handles := fun _ _ hcallee hemulated herror =>
    dispatch_of_emulate_error h hcallee hemulated herror

/-- **A call is refused only for a register outside the frame.** The frame of the callee is built
for every call. A call fails exactly when it passes a register that is not one of the caller's; it
is then refused for the first of them, before anything is changed. Any other call completes. -/
theorem dispatch_refused_only_outside (a : Analysis) (caller : Frame) (call : Invocation)
    (point : Nat) :
    (∃ callee, caller.callee call point = .ok callee) ∧
      ((∃ e, (a.dispatch caller call point).outcome = .error e) ↔
        ∃ r ∈ call.registers, caller.registerCount ≤ r) ∧
      (∀ before r after, call.registers = before ++ r :: after →
        (∀ r' ∈ before, r' < caller.registerCount) → caller.registerCount ≤ r →
          a.Refuses caller call point r) ∧
      ((∀ r ∈ call.registers, r < caller.registerCount) → a.Completes caller call point) := by
  obtain ⟨callee, hcallee, -⟩ := caller.callee_ok call point
  refine ⟨⟨callee, hcallee⟩, ⟨?_, ?_⟩, ?_, ?_⟩
  · rintro ⟨e, he⟩
    cases hout : firstOutside? caller call.registers with
    | none =>
      obtain ⟨o, ho⟩ := a.outcome_dispatch_of_inside point hout
      exact nomatch he.symm.trans ho
    | some r =>
      obtain ⟨hle, before, after, hregs, -⟩ := firstOutside?_eq_some_iff.mp hout
      exact ⟨r, by simp [hregs], hle⟩
  · rintro ⟨r, hr, hle⟩
    cases hout : firstOutside? caller call.registers with
    | none => exact absurd hle (UInt16.not_le.mpr (firstOutside?_eq_none_iff.mp hout r hr))
    | some r' => exact ⟨_, (refuses_of_firstOutside? hout).outcome⟩
  · intro before r after hregs hbefore hle
    have hout := firstOutside?_eq_some_iff.mpr ⟨hle, before, after, hregs, hbefore⟩
    exact refuses_of_firstOutside? hout
  · intro hinside
    exact completes_of_inside (firstOutside?_eq_none_iff.mpr hinside)

end Analysis

end CallEffects
