import CallEffects.Proofs.CalleeFrame
import CallEffects.Proofs.Settling

/-!
# Dispatch by ruling

`Analysis.dispatch` decides and acts in one go. Here the decision is taken out of it as a value, the
`Ruling` on a call, and the effect of each ruling is given as one equation. Every statement about
dispatch is proved by cases on the ruling and one of the three equations; nothing after this file
unfolds `Analysis.dispatch` again.

A ruling is a function of the registry and the catalog (`Analysis.ruling_congr`): neither what the
resolver has kept nor the log takes part in it.

## Main definitions

* `Ruling`, `Analysis.ruling` — how a call is going to come out
* `Analysis.judge` — the judgements on the argument registers of a call
* `Analysis.reachedEvents`, `Analysis.loggedEvents` — what is logged before a call is dealt with, and
  about the call as a whole

## Main results

* `Analysis.dispatch_of_refused`, `Analysis.dispatch_of_returns`,
  `Analysis.dispatch_of_approximated` — the effect of each ruling
* `Analysis.toList_log_dispatch` — the log after a call
-/

namespace CallEffects

/-- How a call is going to come out. -/
inductive Ruling where
  /-- It is refused. -/
  | refused (e : Error)
  /-- Its handler returned a store. -/
  | returns (store : Store)
  /-- It is approximated, under a disposition, once some events are logged. -/
  | approximated (events : List Event) (disposition : Disposition)

/-- What a call delivers when it returned a store: nothing if its method is void. -/
def Invocation.delivers (call : Invocation) (store : Store) : Option Store :=
  if call.method.isVoid then none else some store

/-- The frame after a call delivered its result, if it did. -/
def Frame.receive (f : Frame) : Option Store → Frame
  | some store => f.setResult store
  | none => f

namespace Frame

theorem outline_receive (f : Frame) (result : Option Store) : f.Outline (f.receive result) := by
  cases result with
  | none => exact .refl f
  | some store => exact .setResult f store

@[simp] theorem history_receive (f : Frame) (result : Option Store) (register : UInt16) :
    (f.receive result).history register = f.history register := by
  cases result <;> rfl

theorem result_receive (f : Frame) (result : Option Store) :
    (f.receive result).result = result.or f.result := by
  cases result <;> rfl

end Frame

namespace Analysis

/-! ### Rulings -/

/-- The ruling on a call whose arguments were found. -/
def rulingOn (a : Analysis) (caller callee : Frame) (call : Invocation) : Ruling :=
  match a.disposition caller call.method.descriptor with
  | .emulated =>
    match a.registry.emulate callee call.method.descriptor with
    | .ok store => .returns store
    | .error e => .approximated [.failed call.method.descriptor e] .blackBox
  | .deferredKnown => .approximated [.deferred call.method.descriptor] .deferredKnown
  | .blackBox => .approximated [] .blackBox

/-- The ruling on a call. -/
def ruling (a : Analysis) (caller : Frame) (call : Invocation) (point : Nat) : Ruling :=
  match firstOutside? caller call.registers with
  | some register => .refused (.registerOutOfRange register caller.registerCount)
  | none =>
    match caller.callee call point with
    | .error e => .refused e
    | .ok callee => a.rulingOn caller callee call

/-- A handler is asked if a call may be nested and there is one. -/
theorem disposition_eq_emulated_iff {a : Analysis} {caller : Frame} {descriptor : String} :
    a.disposition caller descriptor = .emulated ↔
      caller.depth ≠ 0 ∧ a.registry.canEmulate descriptor = true := by
  rw [disposition]
  by_cases hdepth : caller.depth = 0
  · simp [hdepth]
  · rw [if_neg hdepth]
    cases a.registry.canEmulate descriptor with
    | true => simp [hdepth]
    | false => cases a.catalog.containsMethod descriptor <;> simp

theorem rulingOn_congr {a b : Analysis} (hregistry : b.registry = a.registry)
    (hcatalog : b.catalog = a.catalog) (caller callee : Frame) (call : Invocation) :
    b.rulingOn caller callee call = a.rulingOn caller callee call := by
  simp only [rulingOn, disposition, hregistry, hcatalog]

/-- A ruling depends on the registry and the catalog alone. -/
theorem ruling_congr {a b : Analysis} (hregistry : b.registry = a.registry)
    (hcatalog : b.catalog = a.catalog) (caller : Frame) (call : Invocation) (point : Nat) :
    b.ruling caller call point = a.ruling caller call point := by
  simp only [ruling, rulingOn_congr hregistry hcatalog]

theorem rulingOn_ne_refused {a : Analysis} {caller callee : Frame} {call : Invocation} {e : Error} :
    a.rulingOn caller callee call ≠ .refused e := by
  intro h
  rw [rulingOn] at h
  split at h
  · split at h <;> exact nomatch h
  · exact nomatch h
  · exact nomatch h

/-- Behind every ruling but a refusal there is the frame of the callee, and all registers that are
passed are registers of the caller. -/
theorem exists_callee {a : Analysis} {caller : Frame} {call : Invocation} {point : Nat} {ρ : Ruling}
    (h : a.ruling caller call point = ρ) (hne : ∀ e, ρ ≠ .refused e) :
    firstOutside? caller call.registers = none ∧
      ∃ callee, caller.callee call point = .ok callee ∧
        callee.passedSlots call.registers = caller.slots call point ∧
        a.rulingOn caller callee call = ρ := by
  obtain ⟨callee, hcallee, hslots⟩ := caller.callee_ok call point
  rw [ruling] at h
  cases hout : firstOutside? caller call.registers with
  | some register =>
    rw [hout] at h
    exact absurd h.symm (hne _)
  | none =>
    rw [hout, hcallee] at h
    exact ⟨rfl, callee, hcallee, hslots, h⟩

theorem lt_size_of_firstOutside?_eq_none {caller : Frame} {registers : List UInt16}
    (h : firstOutside? caller registers = none) {r : UInt16} (hr : r ∈ registers) :
    r.toNat < caller.registers.size := by
  have hle := List.find?_eq_none.mp h r hr
  rw [decide_eq_true_eq, UInt16.le_iff_toNat_le, Frame.toNat_registerCount] at hle
  omega

/-! ### What is done on a ruling -/

/-- What is logged before a call is dealt with: that it was reached, and that no call may be
nested any more. -/
def reachedEvents (caller : Frame) (call : Invocation) : List Event :=
  .processed call :: if caller.depth = 0 then [.exhausted call.method.descriptor] else []

/-- The judgements on the argument registers of a call, and the resolver after them. -/
def judge (a : Analysis) (caller : Frame) (call : Invocation) (point : Nat) :
    List Judgement × Resolver :=
  judgeSlots a.resolver [] (caller.slots call point)

/-- Only registers of the caller are judged. -/
theorem covers_judge (a : Analysis) {caller : Frame} {call : Invocation} (point : Nat)
    (h : firstOutside? caller call.registers = none) :
    caller.Covers (a.judge caller call point).1 := by
  intro j hj
  have hreg := (register_mem_of_mem_judgeSlots hj).resolve_left List.not_mem_nil
  rw [Frame.map_fst_slots] at hreg
  exact lt_size_of_firstOutside?_eq_none h hreg

/-- The analysis on another resolver. -/
def withResolver (a : Analysis) (resolver : Resolver) : Analysis := { a with resolver := resolver }

theorem withResolver_recordAll (a : Analysis) (resolver : Resolver) (events : List Event) :
    (a.recordAll events).withResolver resolver = (a.withResolver resolver).recordAll events := by
  induction events generalizing a with
  | nil => rfl
  | cons e events ih => exact ih (a.record e)

/-- The analysis at the time when a call is dealt with. -/
theorem recordAll_reachedEvents (a : Analysis) (caller : Frame) (call : Invocation) :
    a.recordAll (reachedEvents caller call) =
      if caller.depth = 0 then
        (a.record (.processed call)).record (.exhausted call.method.descriptor)
      else a.record (.processed call) := by
  rw [reachedEvents]
  split <;> rfl

theorem dispatch_eq_perform {a : Analysis} {caller callee : Frame} {call : Invocation} {point : Nat}
    (hin : firstOutside? caller call.registers = none)
    (hcallee : caller.callee call point = .ok callee) :
    a.dispatch caller call point =
      (a.recordAll (reachedEvents caller call)).perform caller callee call point := by
  rw [dispatch, hin, hcallee, recordAll_reachedEvents]

theorem catalog_recordAll (a : Analysis) (events : List Event) :
    (a.recordAll events).catalog = a.catalog := by
  rw [catalog, catalog, resolver_recordAll]

/-- A call whose arguments were found is dealt with as it is ruled. -/
theorem perform_eq (a : Analysis) (caller callee : Frame) (call : Invocation) (point : Nat) :
    a.perform caller callee call point =
      match a.rulingOn caller callee call with
      | .refused e => ⟨.error e, caller, a⟩
      | .returns store => a.returning caller call store
      | .approximated events d => (a.recordAll events).approximate caller callee call point d := by
  rw [perform, rulingOn]
  cases a.disposition caller call.method.descriptor with
  | emulated => cases a.registry.emulate callee call.method.descriptor <;> rfl
  | deferredKnown => rfl
  | blackBox => rfl

theorem returning_eq (a : Analysis) (caller : Frame) (call : Invocation) (store : Store) :
    a.returning caller call store =
      ⟨.ok { disposition := .emulated, result := call.delivers store },
        caller.receive (call.delivers store), a⟩ := by
  rw [returning, Invocation.delivers]
  split <;> rfl

theorem approximate_eq (a : Analysis) {caller callee : Frame} {call : Invocation} {point : Nat}
    (d : Disposition) (hin : firstOutside? caller call.registers = none)
    (hslots : callee.passedSlots call.registers = caller.slots call point) :
    a.approximate caller callee call point d =
      ⟨.ok { disposition := d, result := call.delivers .callResult
             retained := ((a.judge caller call point).1.filter (·.immutable)).map (·.register)
             invalidated := ((a.judge caller call point).1.filter (!·.immutable)).map (·.register) },
        (caller.receive (call.delivers .callResult)).invalidate point (a.judge caller call point).1,
        (a.withResolver (a.judge caller call point).2).recordAll
          (a.judgedEvents call.method.descriptor (a.judge caller call point).1)⟩ := by
  have hcovers : (caller.receive (call.delivers .callResult)).Covers
      (a.judge caller call point).1 :=
    (a.covers_judge point hin).of_outline (caller.outline_receive _)
  have hcaller : a.approximate caller callee call point d =
      settle call.method.descriptor point (a.withResolver (a.judge caller call point).2)
        (caller.receive (call.delivers .callResult))
        { disposition := d, result := call.delivers .callResult }
        (a.judge caller call point).1 := by
    rw [approximate, hslots]
    rfl
  rw [hcaller, settle_eq _ _ hcovers]
  rfl

/-! ### The effect of each ruling -/

variable {a : Analysis} {caller : Frame} {call : Invocation} {point : Nat}

/-- The effect of a refused call: it is logged, and nothing else happens. -/
theorem dispatch_of_refused {e : Error} (h : a.ruling caller call point = .refused e) :
    a.dispatch caller call point = ⟨.error e, caller, a.record (.processed call)⟩ := by
  obtain ⟨callee, hcallee, -⟩ := caller.callee_ok call point
  rw [ruling] at h
  cases hout : firstOutside? caller call.registers with
  | some register =>
    rw [hout] at h
    obtain rfl := Ruling.refused.inj h
    rw [dispatch, hout]
  | none =>
    rw [hout, hcallee] at h
    exact absurd h rulingOn_ne_refused

/-- The effect of a call that returned: the caller receives the result. -/
theorem dispatch_of_returns {store : Store} (h : a.ruling caller call point = .returns store) :
    a.dispatch caller call point =
      ⟨.ok { disposition := .emulated, result := call.delivers store },
        caller.receive (call.delivers store), a.recordAll (reachedEvents caller call)⟩ := by
  obtain ⟨hin, callee, hcallee, -, hruling⟩ := exists_callee h nofun
  rw [← rulingOn_congr (a.registry_recordAll _) (a.catalog_recordAll _)] at hruling
  rw [dispatch_eq_perform hin hcallee, perform_eq, hruling]
  exact returning_eq _ caller call store

/-- The effect of a call that is approximated: the caller receives a result that is not known,
and the registers that are judged mutable lose their values. -/
theorem dispatch_of_approximated {events : List Event} {d : Disposition}
    (h : a.ruling caller call point = .approximated events d) :
    a.dispatch caller call point =
      ⟨.ok { disposition := d, result := call.delivers .callResult
             retained := ((a.judge caller call point).1.filter (·.immutable)).map (·.register)
             invalidated := ((a.judge caller call point).1.filter (!·.immutable)).map (·.register) },
        (caller.receive (call.delivers .callResult)).invalidate point (a.judge caller call point).1,
        (a.withResolver (a.judge caller call point).2).recordAll
          (reachedEvents caller call ++ events ++
            a.judgedEvents call.method.descriptor (a.judge caller call point).1)⟩ := by
  obtain ⟨hin, callee, hcallee, hslots, hruling⟩ := exists_callee h nofun
  rw [← rulingOn_congr (a.registry_recordAll _) (a.catalog_recordAll _)] at hruling
  rw [dispatch_eq_perform hin hcallee, perform_eq, hruling]
  simp only [← recordAll_append]
  rw [approximate_eq _ d hin hslots, withResolver_recordAll, ← recordAll_append]
  simp only [judge, judgedEvents, resolver_recordAll, settings_recordAll]

/-! ### What a call leaves alone -/

/-- No call changes the handlers. -/
@[simp] theorem registry_dispatch (a : Analysis) (caller : Frame) (call : Invocation) (point : Nat) :
    (a.dispatch caller call point).analysis.registry = a.registry := by
  cases hruling : a.ruling caller call point with
  | refused e =>
    rw [dispatch_of_refused hruling]
    rfl
  | returns store => rw [dispatch_of_returns hruling, registry_recordAll]
  | approximated events d =>
    rw [dispatch_of_approximated hruling, registry_recordAll]
    rfl

/-- No call changes the catalog. -/
@[simp] theorem catalog_dispatch (a : Analysis) (caller : Frame) (call : Invocation) (point : Nat) :
    (a.dispatch caller call point).analysis.catalog = a.catalog := by
  cases hruling : a.ruling caller call point with
  | refused e =>
    rw [dispatch_of_refused hruling]
    rfl
  | returns store => rw [dispatch_of_returns hruling, catalog_recordAll]
  | approximated events d =>
    rw [dispatch_of_approximated hruling, catalog_recordAll]
    exact catalog_judgeSlots a.resolver [] _

/-! ### The log -/

/-- What is logged about a call. -/
def loggedEvents (a : Analysis) (caller : Frame) (call : Invocation) (point : Nat) : List Event :=
  match a.ruling caller call point with
  | .refused _ => [.processed call]
  | .returns _ => reachedEvents caller call
  | .approximated events _ =>
    reachedEvents caller call ++ events ++
      a.judgedEvents call.method.descriptor (a.judge caller call point).1

/-- The log is added to, and never changed. -/
theorem toList_log_dispatch (a : Analysis) (caller : Frame) (call : Invocation) (point : Nat) :
    (a.dispatch caller call point).analysis.log.toList =
      a.log.toList ++ a.loggedEvents caller call point := by
  rw [loggedEvents]
  cases hruling : a.ruling caller call point with
  | refused e =>
    rw [dispatch_of_refused hruling]
    exact EventLog.toList_record a.log (.processed call)
  | returns store => rw [dispatch_of_returns hruling, toList_log_recordAll]
  | approximated events d =>
    rw [dispatch_of_approximated hruling, toList_log_recordAll]
    rfl

end Analysis

end CallEffects
