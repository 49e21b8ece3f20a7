import CallEffects.Proofs.Changes
import CallEffects.Proofs.Upshots

/-!
# Instructions that make the same call

An instruction names its registers one by one or as a range, and a list of registers that fits both
encodings can be written in either. Named one by one, it can be written in many ways, since the
slots that are not in use may hold anything. To this come the opcodes, of which four differ only in
how the method that runs is found.

None of it is of consequence for the analysis. The encodings part ways once, where an instruction
is read into its list of registers, and from there on a call is its method, whether there is an
instance, and that list. The mnemonic in the log is the one trace that the encoding leaves.

## Main definitions

* `Invocation.SameCall` — two instructions make the same call

## Main results

* `Invocation.SameCall.callee`, `Invocation.SameCall.slots`, `Invocation.SameCall.ruling` — what is
  read from an instruction
* `Invocation.SameCall.dispatch_eq` — two instructions that make the same call have the same effect
-/

namespace CallEffects

namespace Analysis

variable {a : Analysis} {caller : Frame} {call : Invocation} {point : Nat}

/-- That a call was reached is logged once. -/
theorem kind_ne_of_mem_tail_loggedEvents {e : Event}
    (he : e ∈ (a.loggedEvents caller call point).tail) : e.kind ≠ .invokeProcessed := by
  have hreached : ∀ e ∈ (if caller.depth = 0 then [Event.exhausted call.method.descriptor] else []),
      e.kind ≠ .invokeProcessed := by
    intro e he
    split at he
    · rw [List.mem_singleton.mp he]
      exact nofun
    · exact absurd he List.not_mem_nil
  rw [loggedEvents, reachedEvents] at he
  cases hruling : a.ruling caller call point with
  | refused error =>
    rw [hruling] at he
    exact absurd he List.not_mem_nil
  | returns store =>
    rw [hruling] at he
    exact hreached e he
  | approximated events d =>
    simp only [hruling, List.cons_append, List.tail_cons, List.mem_append] at he
    obtain (he | he) | he := he
    · exact hreached e he
    · obtain hkind | hkind := kind_of_approximated hruling he <;> simp [hkind]
    · obtain hkind | hkind := kind_of_mem_judgedEvents he <;> simp [hkind]

end Analysis

namespace Invocation

/-- Two instructions make the same call, however it is encoded. -/
structure SameCall (i j : Invocation) : Prop where
  /-- They name the same method. -/
  method : j.method = i.method
  /-- Both pass an instance, or neither does. -/
  isStatic : j.isStatic = i.isStatic
  /-- They pass the same registers. -/
  registers : j.registers = i.registers

namespace SameCall

variable {i j : Invocation}

theorem callee (h : i.SameCall j) (caller : Frame) (point : Nat) :
    caller.callee j point = caller.callee i point := by
  rw [Frame.callee, Frame.callee, h.method, h.isStatic, h.registers]

theorem slots (h : i.SameCall j) (caller : Frame) (point : Nat) :
    caller.slots j point = caller.slots i point := by
  have htype : caller.instanceType j point = caller.instanceType i point := by
    rw [Frame.instanceType, Frame.instanceType, h.method, h.registers]
  rw [Frame.slots, Frame.slots, Frame.passedTypes, Frame.passedTypes, htype, h.method, h.isStatic,
    h.registers]

theorem ruling (h : i.SameCall j) (a : Analysis) (caller : Frame) (point : Nat) :
    a.ruling caller j point = a.ruling caller i point := by
  simp only [Analysis.ruling, Analysis.rulingOn, h.method, h.registers, h.callee caller point]

/-- **Two instructions that make the same call have the same effect.** The frame of the callee is
the same. The call has the same outcome, or is refused for the same reason, and leaves the same
frame and the same resolver, with the same verdicts kept. The same is logged, except that the one
event that the call was reached has the mnemonic of the instruction in its message. -/
theorem dispatch_eq (h : i.SameCall j) (a : Analysis) (caller : Frame) (point : Nat) :
    let effect := a.dispatch caller i point
    let effect' := a.dispatch caller j point
    caller.callee j point = caller.callee i point ∧
      effect'.outcome = effect.outcome ∧
      effect'.caller = effect.caller ∧
      effect'.analysis.resolver = effect.analysis.resolver ∧
      (∃ rest, effect.analysis.log.toList = a.log.toList ++ .processed i :: rest ∧
        effect'.analysis.log.toList = a.log.toList ++ .processed j :: rest ∧
        ∀ e ∈ rest, e.kind ≠ .invokeProcessed) ∧
      { Event.processed j with message := (Event.processed i).message } = Event.processed i := by
  intro effect effect'
  have hruling := h.ruling a caller point
  have hslots := h.slots caller point
  have hjudge : (a.judge caller j point).1 = (a.judge caller i point).1 := by
    rw [Analysis.judge_congr hslots]
  obtain ⟨houtcome, hchange⟩ := Analysis.dispatch_congr h.method hruling fun _ _ _ => hjudge
  obtain ⟨hconsulted, htail⟩ := Analysis.consulted_congr h.method Iff.rfl hruling hslots
  refine ⟨h.callee caller point, houtcome, ?_, ?_,
    ⟨(a.loggedEvents caller i point).tail, ?_, ?_, ?_⟩, ?_⟩
  · refine (a.undergoes_dispatch caller i point).unique ?_
    rw [← hchange]
    exact a.undergoes_dispatch caller j point
  · simp only [effect, effect', Analysis.analysis_dispatch, Analysis.resolver_recordAll, hconsulted]
  · rw [← Analysis.loggedEvents_eq_cons]
    exact a.toList_log_dispatch caller i point
  · rw [← htail, ← Analysis.loggedEvents_eq_cons]
    exact a.toList_log_dispatch caller j point
  · intro e he
    exact Analysis.kind_ne_of_mem_tail_loggedEvents he
  · rw [Event.processed, Event.processed, h.method]

end SameCall

end Invocation

/-! ### A call in two encodings -/

/-- A call with its registers named one by one. What is in the slots that are not in use would not
fit the field of a register. -/
def calledOneByOne : Invocation where
  opcode := ⟨.virtual, .compact⟩
  operands := .compact ⟨2, #v[0, 1, 200, 201, 202], by decide, by simp⟩
  method := ⟨⟨"La;"⟩, "n", [⟨"La;"⟩], ⟨"I"⟩⟩
  addressing_eq := rfl
  count_eq := by decide

/-- The same call with a range of registers, through an interface. -/
def calledByRange : Invocation where
  opcode := ⟨.interface, .range⟩
  operands := .range ⟨0, 2, by decide⟩
  method := ⟨⟨"La;"⟩, "n", [⟨"La;"⟩], ⟨"I"⟩⟩
  addressing_eq := rfl
  count_eq := by decide

theorem dispatch_eq_calledByRange :
    let effect := stringsSealed.dispatch sharedReceiver calledOneByOne 4
    let effect' := stringsSealed.dispatch sharedReceiver calledByRange 4
    calledOneByOne.SameCall calledByRange ∧
      effect.outcome = .ok ⟨.blackBox, some .callResult, [0], [1]⟩ ∧
      effect'.outcome = effect.outcome ∧
      effect'.caller = effect.caller ∧
      (∃ rest, effect.analysis.log.toList = .processed calledOneByOne :: rest ∧
        effect'.analysis.log.toList = .processed calledByRange :: rest) ∧
      (Event.processed calledOneByOne).message = "invoke-virtual La;->n(La;)I" ∧
      (Event.processed calledByRange).message = "invoke-interface/range La;->n(La;)I" := by
  intro effect effect'
  have hsame : calledOneByOne.SameCall calledByRange := ⟨rfl, rfl, by decide⟩
  obtain ⟨-, houtcome, hcaller, -, ⟨rest, hlog, hlog', -⟩, -⟩ :=
    hsame.dispatch_eq stringsSealed sharedReceiver 4
  exact ⟨hsame, by decide, houtcome, hcaller, ⟨rest, hlog, hlog'⟩, by decide, by decide⟩

end CallEffects
