import CallEffects.Proofs.Approximation
import CallEffects.Proofs.Changes
import CallEffects.Proofs.Dispositions

/-!
# What a call can see

A call is dispatched on the whole frame of its caller, and reads little of it: how many registers
there are, how many calls may be nested, and what is in effect in the argument registers at the
point of the call. Two callers may differ in everything else, in other registers, in what was
written before or after, in what was returned, and the call comes to the same on both.

A call that is not run reads still less. Its arguments are collected all the same, in the frame of
a callee that is built for it, but all that is looked at of that frame are the types, and those are
the declared ones. What is left of the caller is the type under which it knows the instance.

"The same" cannot mean the same frame, since the callers differ. It means the same change.

## Main definitions

* `Frame.AgreeOn` — two callers agree in what a call can see
* `Frame.AgreeInType` — two callers agree in what a call can see that is not run
* `Analysis.SameEffect` — a call comes to the same on two callers

## Main results

* `Frame.callee_congr` — the frame of a callee is a matter of the argument registers
* `Frame.slots_congr` — the types under which arguments are passed are a matter of the instance
* `Analysis.dispatch_sees_arguments_only` — a call comes to the same on callers that agree
-/

namespace CallEffects

namespace Frame

/-- Two callers agree in everything that a call can see. -/
structure AgreeOn (f g : Frame) (call : Invocation) (point : Nat) : Prop where
  /-- They have as many registers. -/
  registerCount : g.registerCount = f.registerCount
  /-- As many calls may be nested. -/
  depth : g.depth = f.depth
  /-- The same is in effect in the argument registers. -/
  read : ∀ r ∈ call.registers, g.read? r point = f.read? r point

/-- Two callers agree in everything that a call can see that is not run. No value is part of it. -/
structure AgreeInType (f g : Frame) (call : Invocation) (point : Nat) : Prop where
  /-- They have as many registers. -/
  registerCount : g.registerCount = f.registerCount
  /-- A call may be nested in both or in neither. -/
  exhausted : g.depth = 0 ↔ f.depth = 0
  /-- The instance, if there is one, is known to both, under the same type, or to neither. -/
  receiver : call.isStatic = false → ∀ r, call.registers[0]? = some r →
    (g.read? r point).map (·.type) = (f.read? r point).map (·.type)

variable {f g : Frame} {call : Invocation} {point : Nat}

theorem AgreeOn.agreeInType (h : f.AgreeOn g call point) : f.AgreeInType g call point where
  registerCount := h.registerCount
  exhausted := by rw [h.depth]
  receiver _ r hr := by rw [h.read r (List.mem_of_getElem? hr)]

/-! ### The frame of the callee -/

theorem read?_congr {r : UInt16} (point : Nat) (h : g.history r = f.history r) :
    g.read? r point = f.read? r point := by
  rw [read?, read?, h]

theorem value_congr {r : UInt16} (h : g.read? r point = f.read? r point) :
    g.value r point = f.value r point := by
  rw [value, value, h]

theorem parameterStores_congr (method : MethodRef) (types : List TypeDescriptor)
    {registers : List UInt16} (h : ∀ r ∈ registers, g.read? r point = f.read? r point) :
    g.parameterStores method point types registers =
      f.parameterStores method point types registers := by
  induction types generalizing registers with
  | nil => cases registers <;> rfl
  | cons type types ih =>
    obtain _ | ⟨r, registers⟩ := registers
    · rfl
    · have hvalue := value_congr (h r List.mem_cons_self)
      have hrest : ∀ r ∈ registers, g.read? r point = f.read? r point :=
        fun r hr => h r (List.mem_cons_of_mem _ hr)
      rw [parameterStores.eq_def, parameterStores.eq_def f]
      simp only [hvalue]
      by_cases hwide : type.isWide = true
      · rw [if_pos hwide, if_pos hwide]
        -- The register of the upper half is passed over.
        obtain _ | ⟨r', registers⟩ := registers
        · rfl
        · simp only [ih fun r hr => hrest r (List.mem_cons_of_mem _ hr)]
      · rw [if_neg hwide, if_neg hwide, ih hrest]

/-- **The frame of a callee** is a matter of what is in effect in the argument registers, and of how
many calls may be nested. -/
theorem callee_congr (hdepth : g.depth = f.depth)
    (hread : ∀ r ∈ call.registers, g.read? r point = f.read? r point) :
    g.callee call point = f.callee call point := by
  have hstores : g.argumentStores call.method call.isStatic point call.registers =
      f.argumentStores call.method call.isStatic point call.registers := by
    rw [argumentStores.eq_def, argumentStores.eq_def f]
    split
    · exact parameterStores_congr _ _ hread
    · generalize call.registers = registers at hread
      obtain _ | ⟨r, registers⟩ := registers
      · rfl
      · have hrest := parameterStores_congr call.method call.method.params fun r hr =>
          hread r (List.mem_cons_of_mem _ hr)
        simp only [hrest, instanceStore, hread r List.mem_cons_self]
  have hcallee : g.calleeDepth = f.calleeDepth := by rw [calleeDepth, calleeDepth, hdepth]
  rw [callee, callee, hstores, hcallee]

/-- **The types under which a call passes its registers** are the declared ones, except for the
instance. -/
theorem slots_congr (h : f.AgreeInType g call point) :
    g.slots call point = f.slots call point := by
  rw [slots, slots, passedTypes, passedTypes]
  cases hstatic : call.isStatic with
  | true => rfl
  | false =>
    have htype : g.instanceType call point = f.instanceType call point := by
      have hreceiver := h.receiver hstatic
      rw [instanceType, instanceType, List.head?_eq_getElem?]
      cases hr : call.registers[0]? with
      | none => rfl
      | some r =>
        have hr' := hreceiver r hr
        simp only [Option.bind_some]
        cases hg : g.read? r point <;> cases hf : f.read? r point <;> simp_all
    rw [htype]

end Frame

namespace Analysis

/-! ### The ruling -/

variable {a : Analysis} {f g : Frame} {call : Invocation} {point : Nat}

theorem disposition_congr (h : g.depth = 0 ↔ f.depth = 0) (descriptor : String) :
    a.disposition g descriptor = a.disposition f descriptor := by
  rw [disposition, disposition, if_congr h rfl rfl]

/-- The ruling on a call is the same on two callers if the dispositions agree, and the frames of the
callees as well in case a handler is given one. -/
theorem ruling_congr_caller (hcount : g.registerCount = f.registerCount)
    (hdepth : g.depth = 0 ↔ f.depth = 0)
    (hcallee : a.disposition f call.method.descriptor = .emulated →
      g.callee call point = f.callee call point) :
    a.ruling g call point = a.ruling f call point := by
  obtain ⟨callee, hf, -⟩ := f.callee_ok call point
  obtain ⟨callee', hg, -⟩ := g.callee_ok call point
  rw [ruling, ruling, firstOutside?, firstOutside?, hcount, hf, hg]
  split
  · rfl
  · simp only [rulingOn, disposition_congr hdepth]
    cases hd : a.disposition f call.method.descriptor with
    | emulated =>
      obtain rfl : callee' = callee := Except.ok.inj (hg.symm.trans ((hcallee hd).trans hf))
      rfl
    | deferredKnown => rfl
    | blackBox => rfl

/-! ### The effect -/

/-- A call comes to the same on two callers. -/
structure SameEffect (a : Analysis) (f g : Frame) (call : Invocation) (point : Nat) : Prop where
  /-- It has the same outcome, or is refused for the same reason. -/
  outcome : (a.dispatch g call point).outcome = (a.dispatch f call point).outcome
  /-- It leaves the same analysis: the same is logged, and the same is kept. -/
  analysis : (a.dispatch g call point).analysis = (a.dispatch f call point).analysis
  /-- It makes the same change to both, which writes the registers that are reported as lost. -/
  change : ∃ c : Change,
    (∀ r, (c.written r).isSome = true ↔ r ∈ (a.dispatch f call point).invalidated) ∧
    f.Undergoes point c (a.dispatch f call point).caller ∧
    g.Undergoes point c (a.dispatch g call point).caller

theorem sameEffect_of_ruling (h : f.AgreeInType g call point)
    (hruling : a.ruling g call point = a.ruling f call point) : a.SameEffect f g call point := by
  have hslots := Frame.slots_congr h
  have hjudge : (a.judge g call point).1 = (a.judge f call point).1 := by rw [judge_congr hslots]
  obtain ⟨houtcome, hchange⟩ := dispatch_congr rfl hruling fun _ _ _ => hjudge
  obtain ⟨hconsulted, hlogged⟩ := consulted_congr rfl h.exhausted hruling hslots
  refine ⟨houtcome, ?_, a.change f call point, a.isSome_written_iff f call point,
    a.undergoes_dispatch f call point, ?_⟩
  · rw [analysis_dispatch, analysis_dispatch, hconsulted, loggedEvents_eq_cons, hlogged,
      ← loggedEvents_eq_cons]
  · rw [← hchange]
    exact a.undergoes_dispatch g call point

/-- A call comes to the same on callers that agree in what it can see. -/
theorem sameEffect_of_agreeOn (a : Analysis) (h : f.AgreeOn g call point) :
    a.SameEffect f g call point := by
  have htype := h.agreeInType
  exact sameEffect_of_ruling htype (ruling_congr_caller htype.registerCount htype.exhausted
    fun _ => Frame.callee_congr h.depth h.read)

/-- A call that is not run comes to the same on callers that agree in the type of the instance. -/
theorem sameEffect_of_agreeInType
    (hhandler : f.depth = 0 ∨ a.registry.canEmulate call.method.descriptor = false)
    (h : f.AgreeInType g call point) : a.SameEffect f g call point := by
  refine sameEffect_of_ruling h (ruling_congr_caller h.registerCount h.exhausted fun hd => ?_)
  obtain ⟨hdepth, hcan⟩ := disposition_eq_emulated_iff.mp hd
  rcases hhandler with hzero | hnone
  · exact absurd hzero hdepth
  · exact absurd (hnone.symm.trans hcan) Bool.false_ne_true

/-- **A call sees its arguments only.** On two callers that agree in the number of registers, in
how many calls may be nested, and in what is in effect in the argument registers, it has the same
outcome, logs the same and makes the same change, whatever else the callers hold. If the call is
not run, because no call may be nested or because its method has no handler, it is enough that a
call may be nested in both callers or in neither, and that they know the instance under the same
type or not at all: no value has an influence on it. -/
theorem dispatch_sees_arguments_only (a : Analysis) (f g : Frame) (call : Invocation)
    (point : Nat) :
    (f.AgreeOn g call point → a.SameEffect f g call point) ∧
      (f.depth = 0 ∨ a.registry.canEmulate call.method.descriptor = false →
        f.AgreeInType g call point → a.SameEffect f g call point) :=
  ⟨a.sameEffect_of_agreeOn, sameEffect_of_agreeInType⟩

end Analysis

/-! ### Two pairs of callers

The first pair differs in what was written earlier and later, and in what the calls before returned.
The second pair has no value in common, and differs in how many calls may be nested. -/

/-- A frame in which the same is in effect at point 1 as in `negativeFrame`. -/
def negativeForNow : Frame where
  registers := #[⟨[(0, ⟨⟨"Z"⟩, .boolean true⟩), (1, ⟨Library.intType, .int (-5)⟩),
    (2, ⟨Library.intType, .int 6⟩)], by simp⟩]
  parameterSize := 1
  depth := 4
  result := some .callResult
  returned := some .callResult
  size_lt := by decide
  parameterSize_le := by decide

/-- A frame that knows its first register under the same type as `sharedReceiver`, with another
value. -/
def otherString : Frame where
  registers := #[⟨[(4, ⟨⟨"Ljava/lang/String;"⟩, .string "t"⟩)], by simp⟩,
    ⟨[(0, ⟨Library.intType, .int 7⟩)], by simp⟩, ⟨[(3, ⟨⟨"La;"⟩, .null⟩)], by simp⟩]
  parameterSize := 2
  depth := 1
  result := none
  returned := none
  size_lt := by decide
  parameterSize_le := by decide

theorem dispatch_sees_arguments_only_twice :
    negativeFrame.AgreeOn negativeForNow (absoluteCall 0) 1 ∧
      libraryOnly.SameEffect negativeFrame negativeForNow (absoluteCall 0) 1 ∧
      (libraryOnly.dispatch negativeForNow (absoluteCall 0) 1).outcome =
        .ok ⟨.emulated, some ⟨Library.intType, .int 5⟩, [], []⟩ ∧
      stringsSealed.registry.canEmulate sharingCall.method.descriptor = false ∧
      sharedReceiver.AgreeInType otherString sharingCall 4 ∧
      stringsSealed.SameEffect sharedReceiver otherString sharingCall 4 ∧
      (stringsSealed.dispatch otherString sharingCall 4).outcome =
        .ok ⟨.blackBox, some .callResult, [1, 2], [0]⟩ := by
  have hregister : (absoluteCall 0).registers = [0] := by decide
  have hread : negativeForNow.read? 0 1 = negativeFrame.read? 0 1 := by decide
  have hon : negativeFrame.AgreeOn negativeForNow (absoluteCall 0) 1 := by
    refine ⟨rfl, rfl, fun r hr => ?_⟩
    rw [hregister] at hr
    rw [List.mem_singleton.mp hr, hread]
  have hhandler : stringsSealed.registry.canEmulate sharingCall.method.descriptor = false := by
    decide
  have htype : sharedReceiver.AgreeInType otherString sharingCall 4 := by
    refine ⟨rfl, by decide, fun _ r hr => ?_⟩
    have hzero : sharingCall.registers[0]? = some 0 := by decide
    obtain rfl : 0 = r := Option.some.inj (hzero.symm.trans hr)
    decide
  exact ⟨hon, (libraryOnly.dispatch_sees_arguments_only _ _ _ _).1 hon, by decide, hhandler, htype,
    (stringsSealed.dispatch_sees_arguments_only _ _ _ _).2 (.inr hhandler) htype, by decide⟩

end CallEffects
